import OpenClipboard.Outbound.Dispatch
import OpenClipboard.Outbound.RootMarks
import OpenClipboard.Outbound.SnapshotFromEntry

/-!
# Serving a pull

A peer asks for content by its snapshot hash.  The hash finds the entry; the
payload is rebuilt from what the entry's stores and files hold now.
-/

namespace OpenClipboard

open Text PartialMap

inductive ActiveClipboardPullServeError where
  | notAvailable
  | notUnlocked
  | internal (reason : String)
  deriving DecidableEq, Repr

inductive TransferCipherError where
  | notUnlocked
  | failed (reason : String)
  deriving DecidableEq, Repr

structure ActiveClipboardPullServeDeps where
  findEntryIdBySnapshotHash : String → Except String (Option String)
  sources : SnapshotSources
  settings : SettingsLoad
  metadata : PathBuf → Option Nat
  blobPublisher : OutboundBlobPublishGateway
  loadFileSet : String → FileSetLoad
  /-- The framing; the hash that the encoder returns beside it is dropped. -/
  encode : OutboundPayload → Except String (List UInt8)
  encrypt : List UInt8 → Except TransferCipherError (List UInt8)

/-- Only a repository failure is internal. -/
def mapReconstructError : BuildSnapshotError → ActiveClipboardPullServeError
  | .repository err => .internal err
  | _ => .notAvailable

def mapPayloadError : OutboundPayloadError → ActiveClipboardPullServeError
  | .unavailable => .notAvailable
  | .publish err => .internal s!"publish blobs: {err}"
  | .internal message => .internal message

def mapCipherError : TransferCipherError → ActiveClipboardPullServeError
  | .notUnlocked => .notUnlocked
  | .failed reason => .internal s!"encrypt: {reason}"

section Serve

variable (urlParse : UrlParse) (blake3 : Blake3)
variable (deps : ActiveClipboardPullServeDeps)

def lookupEntry (snapshotHash : String) :
    Except ActiveClipboardPullServeError String :=
  match deps.findEntryIdBySnapshotHash snapshotHash with
  | .ok (some entryId) => .ok entryId
  | .ok none => .error .notAvailable
  | .error err => .error (.internal s!"entry lookup: {err}")

/-- `serve`, up to the payload that is framed. -/
def servePayload (snapshotHash : String) :
    Except ActiveClipboardPullServeError OutboundPayload :=
  (lookupEntry deps snapshotHash).bind fun entryId =>
  ((reconstructSnapshotFromEntry deps.sources entryId).mapError
    mapReconstructError).bind fun snapshot =>
  (assembleOutboundPayload urlParse blake3 deps.blobPublisher deps.settings
    deps.metadata (deps.loadFileSet entryId) snapshot).mapError mapPayloadError

/-- Frame and encrypt. -/
def envelopeOf (payload : OutboundPayload) :
    Except ActiveClipboardPullServeError (List UInt8) :=
  ((deps.encode payload).mapError fun err =>
    .internal s!"encode envelope: {err}").bind fun plaintext =>
      (deps.encrypt plaintext).mapError mapCipherError

def serve (snapshotHash : String) :
    Except ActiveClipboardPullServeError (List UInt8) :=
  (servePayload urlParse blake3 deps snapshotHash).bind (envelopeOf deps)

/-! ## What the holder can reproduce -/

/-- What the selection names and still resolves. -/
def heldSnapshot (entry : ClipboardEntry) (selection : ClipboardSelection) :
    SystemClipboardSnapshot where
  tsMs := entry.createdAtMs
  representations :=
    heldRepresentations deps.sources entry.eventId selection

/-- The files that the entry's manifest, or else its file lists, resolve to,
as they can be sent now. -/
def heldFiles (entryId : String) (snapshot : SystemClipboardSnapshot) :
    Option (ResolvedFiles × List FileSyncIntent) :=
  (resolveOutboundFileSet urlParse (deps.loadFileSet entryId)
      snapshot).resolvedFiles.bind fun resolved =>
    (fileCandidates deps.metadata resolved.fromManifest resolved.paths).map
      fun candidates =>
        (resolved, (OutboundSyncPlanner.plan deps.settings snapshot .resend
          candidates resolved.paths.length).files)

def currentDigests (files : List FileSyncIntent) : List Digest :=
  files.filterMap fun file =>
    (deps.blobPublisher.publishBlobPath file.path).toOption.map
      PublishBlobResult.plaintextHash

def currentFileComponent (resolved : ResolvedFiles)
    (files : List FileSyncIntent) : Option Digest :=
  match resolved.directoryMembers with
  | some members =>
      (buildTransferManifest members files).toOption.bind fun manifest =>
        (computeFileSetComponent blake3 manifest fun index =>
          (currentDigests deps files)[index]?).toOption
  | none =>
      if (currentDigests deps files).isEmpty then
        none
      else
        some (ContentHash.fileContentWrapper blake3 (currentDigests deps files))

/-- The content hashes of the representations that the selection names and
that still resolve, and the component of the files as they are now. -/
def heldIdentity (entryId : String) (entry : ClipboardEntry)
    (selection : ClipboardSelection) : List Digest :=
  let snapshot := heldSnapshot deps entry selection
  let component := (heldFiles urlParse deps entryId snapshot).bind fun held =>
    currentFileComponent blake3 deps held.1 held.2
  (snapshot.representations.filter fun rep =>
      !(component.isSome && rep.isFile)).map
        (fun rep =>
          ContentHash.contentHash blake3 (rep.inlineBytes.getD [])) ++
    component.toList

variable {urlParse blake3 deps}

theorem lookupEntry_eq_ok_iff {snapshotHash entryId : String} :
    lookupEntry deps snapshotHash = .ok entryId ↔
      deps.findEntryIdBySnapshotHash snapshotHash = .ok (some entryId) := by
  unfold lookupEntry
  split
  · rename_i found isFound
    simp [isFound]
  · rename_i isFound
    simp [isFound]
  · rename_i err isFound
    simp [isFound]

theorem currentDigests_of_published {files : List FileSyncIntent}
    {blobRefs : List V3BlobRef} {digests : List Digest}
    (published : publishFileBlobRefs deps.blobPublisher files =
      .ok (blobRefs, digests)) :
    currentDigests deps files = digests := by
  have pointwise := (publishFileBlobRefs_ok published).2
  unfold currentDigests
  clear published
  induction pointwise with
  | nil => rfl
  | cons here _ inductionHypothesis =>
      obtain ⟨result, isResult, isDigest⟩ := here
      rw [List.filterMap_cons, isResult, inductionHypothesis, isDigest]
      rfl

theorem stamped_component {resolved : ResolvedFiles}
    {files : List FileSyncIntent} {blobRefs : List V3BlobRef}
    {digests : List Digest} {manifest : Option InboundFileSetManifest}
    {snapshot stamped : SystemClipboardSnapshot}
    (noDigests : snapshot.fileContentDigests = [])
    (noComponent : snapshot.fileSetV1Component = none)
    (published : publishFileBlobRefs deps.blobPublisher files =
      .ok (blobRefs, digests))
    (assembled : assembledManifest resolved files = .ok manifest)
    (isStamped : stampFileIdentity blake3 manifest digests snapshot =
      .ok stamped) :
    stamped.representations = snapshot.representations ∧
      stamped.fileComponent blake3 =
        currentFileComponent blake3 deps resolved files ∧
      stamped.hasFileComponent =
        (currentFileComponent blake3 deps resolved files).isSome := by
  have current := currentDigests_of_published published
  unfold currentFileComponent
  rw [current]
  unfold assembledManifest at assembled
  cases isMembers : resolved.directoryMembers with
  | some members =>
      simp only [isMembers] at assembled
      obtain ⟨built, isBuilt, isManifest⟩ := map_eq_ok_iff.mp assembled
      rw [mapError_eq_ok_iff] at isBuilt
      subst isManifest
      unfold stampFileIdentity at isStamped
      obtain ⟨component, isComponent, rfl⟩ := map_eq_ok_iff.mp isStamped
      have found : ((buildTransferManifest members files).toOption.bind
          fun manifest => (computeFileSetComponent blake3 manifest fun index =>
            digests[index]?).toOption) = some component := by
        apply Option.bind_eq_some_iff.mpr
        exact ⟨built, toOption_eq_some_iff.mpr isBuilt,
          toOption_eq_some_iff.mpr isComponent⟩
      simp only [found]
      exact ⟨trivial, rfl, rfl⟩
  | none =>
      simp only [isMembers] at assembled
      cases assembled
      unfold stampFileIdentity at isStamped
      simp only at isStamped ⊢
      by_cases isEmpty : digests.isEmpty = true
      · rw [if_pos isEmpty] at isStamped ⊢
        cases isStamped
        refine ⟨rfl, ?_, ?_⟩
        · unfold SystemClipboardSnapshot.fileComponent
          rw [noComponent, noDigests]
          rfl
        · unfold SystemClipboardSnapshot.hasFileComponent
          rw [noComponent, noDigests]
          rfl
      · rw [if_neg isEmpty] at isStamped ⊢
        cases isStamped
        refine ⟨rfl, ?_, ?_⟩
        · unfold SystemClipboardSnapshot.fileComponent
          simp only [noComponent, if_neg isEmpty]
        · unfold SystemClipboardSnapshot.hasFileComponent
          simp only [noComponent]
          simp [isEmpty]

theorem mapM_contentHash_held {eventId : String}
    {selection : ClipboardSelection} {keeps : ObservedClipboardRepresentation →
      Bool} {readFile : PathBuf → Option (List UInt8)} :
    (((heldRepresentations deps.sources eventId selection).filter keeps).mapM
        fun (rep : ObservedClipboardRepresentation) =>
          rep.contentHash blake3 readFile) =
      some (((heldRepresentations deps.sources eventId selection).filter
        keeps).map fun rep =>
          ContentHash.contentHash blake3 (rep.inlineBytes.getD [])) := by
  apply mapM_eq_some_iff.mpr
  apply List.forall₂_map_right_iff.mpr
  apply List.forall₂_same.mpr
  intro rep isHeld
  have inReps := List.mem_of_mem_filter isHeld
  unfold heldRepresentations at inReps
  simp only [List.mem_filterMap, Option.bind_eq_some_iff,
    Option.map_eq_some_iff] at inReps
  obtain ⟨repId, _, found, _, stored, _, bytes, _, isRep⟩ := inReps
  rw [← isRep]
  rfl

theorem servePayload_ok {snapshotHash : String} {payload : OutboundPayload}
    (readFile : PathBuf → Option (List UInt8))
    (served : servePayload urlParse blake3 deps snapshotHash = .ok payload) :
    ∃ entryId entry selection,
      deps.findEntryIdBySnapshotHash snapshotHash = .ok (some entryId) ∧
      deps.sources.getEntry entryId = .ok (some entry) ∧
      deps.sources.getSelection entryId = .ok (some selection) ∧
      payload.snapshot.identityDigests blake3 readFile =
        some (heldIdentity urlParse blake3 deps entryId entry selection) := by
  obtain ⟨entryId, isEntryId, rest⟩ := bind_eq_ok_iff.mp served
  obtain ⟨snapshot, rebuilt, assembled⟩ := bind_eq_ok_iff.mp rest
  rw [mapError_eq_ok_iff] at rebuilt assembled
  obtain ⟨entry, selection, isEntry, isSelection, isSnapshot⟩ :=
    reconstructSnapshotFromEntry_ok rebuilt
  have isHeld : snapshot = heldSnapshot deps entry selection := isSnapshot
  obtain ⟨resolved, isResolved, candidates, isCandidates, planned, isPlanned, _,
    _, files, published, manifest, isManifest, stamped, isStamped, images,
    taken, isPayload⟩ := assembleOutboundPayload_eq_ok_iff.mp assembled
  have samePlanned : planned = snapshot :=
    (OutboundSyncPlanner.plan_cases _ _ _ _ _).2 planned isPlanned
  subst samePlanned
  have noDigests : planned.fileContentDigests = [] := by
    rw [isSnapshot]
  have noComponent : planned.fileSetV1Component = none := by
    rw [isSnapshot]
  obtain ⟨sameReps, isComponent, hasComponent⟩ :=
    stamped_component noDigests noComponent published isManifest isStamped
  have isFiles : heldFiles urlParse deps entryId planned =
      some (resolved, (OutboundSyncPlanner.plan deps.settings planned .resend
        candidates resolved.paths.length).files) := by
    unfold heldFiles
    rw [isResolved, Option.bind_some, isCandidates]
    rfl
  refine ⟨entryId, entry, selection, lookupEntry_eq_ok_iff.mp isEntryId,
    isEntry, isSelection, ?_⟩
  rw [← isPayload, publishOversizedInlineBlobRefs_identity taken]
  unfold heldIdentity SystemClipboardSnapshot.identityDigests
    SystemClipboardSnapshot.hashedRepresentations
  simp only [← isHeld, isFiles, Option.bind_some]
  rw [hasComponent, isComponent, sameReps]
  simp only [isSnapshot]
  rw [mapM_contentHash_held]
  rfl

end Serve

/-! ## A representation that no longer resolves -/

def plainRep : ObservedClipboardRepresentation :=
  .new "rep-1" "text" (some "text/plain") [104, 105]

def htmlRep : ObservedClipboardRepresentation :=
  .new "rep-2" "html" (some "text/html") [60, 112, 62]

def textSnapshot : SystemClipboardSnapshot := ⟨1, [plainRep, htmlRep], [], none⟩

def textIdentity : List Digest :=
  [positionalDigest [104, 105], positionalDigest [60, 112, 62]]

def textHash : String :=
  ContentHash.formatBlake3v1
    (ContentHash.snapshotHash positionalDigest textIdentity)

/-- The stored text; the second format waits in the spool. -/
def textSources (spooled : Option (List UInt8)) : SnapshotSources where
  getEntry _ := .ok (some ⟨"entry-1", "event-1", 1⟩)
  getSelection _ := .ok (some ⟨"rep-1", "rep-1", "rep-1", ["rep-2"]⟩)
  getRepresentation key :=
    .ok (some (if key.repId = "rep-1" then
      sampleRep [104, 105]
    else
      { sampleRep [] with
        id := "rep-2"
        formatId := ⟨"html"⟩
        mimeType := some ⟨"text/html"⟩
        sizeBytes := 3
        inlineData := none
        payloadState := .staged }))
  resolve := resolvePayload (fun _ => none) fun _ => .ok spooled
  getBlob _ := .error "no blob"

def textDeps (spooled : Option (List UInt8)) :
    ActiveClipboardPullServeDeps where
  findEntryIdBySnapshotHash hash :=
    .ok (if hash = textHash then some "entry-1" else none)
  sources := textSources spooled
  settings := .ok ⟨true, 0⟩
  metadata _ := none
  blobPublisher := ⟨fun _ => .error "no store", fun _ => .error "no store"⟩
  loadFileSet _ := .ok none
  encode payload := .ok (payload.snapshot.representations.flatMap fun rep =>
    rep.inlineBytes.getD [])
  encrypt := .ok

end OpenClipboard
