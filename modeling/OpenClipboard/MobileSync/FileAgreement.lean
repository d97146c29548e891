import OpenClipboard.MobileSync.LatestDoc

/-!
# The document and its file

A phone takes the size and hash from the document and downloads the file under
its name.  Both come from one representation; the bytes of a file list are
those of the list in the one and those of the file in the other.
-/

namespace OpenClipboard.MobileSync

open Text

section Agreement

variable {libraries : MobileSyncLibraries}
variable {ports later : MobileSyncSnapshotPorts}
variable {readByUri : String → Except MobileFileStagingError (List UInt8)}
variable {rep : LatestPasteRepresentation}

/-- The name that a document gives has a file of the size and hash that the
document gives. -/
def MetadataMatchesFile (libraries : MobileSyncLibraries)
    (ports later : MobileSyncSnapshotPorts)
    (readByUri : String → Except MobileFileStagingError (List UInt8)) :
    Prop :=
  ∀ doc name hash, getLatestDoc libraries ports = .ok doc →
    doc.hasData = true → doc.dataName = some name → doc.hash = some hash →
      ∃ output, getFile libraries later readByUri name = .ok output ∧
        output.bytes.length = doc.size ∧
          profileHashForSync libraries output.bytes = hash

theorem classifyForSync_ne_group : rep.classifyForSync ≠ .group := by
  intro isGroup
  unfold LatestPasteRepresentation.classifyForSync at isGroup
  split at isGroup
  · cases isGroup
  · split at isGroup
    · cases isGroup
    · cases isGroup

theorem hasData_metaOf :
    (metaOf libraries rep).hasData = true ↔
      rep.classifyForSync ≠ .text := by
  unfold metaOf LatestPasteRepresentation.deriveDataName
  cases isType : rep.classifyForSync with
  | text => simp
  | image => simp
  | file => simp
  | group => exact absurd isType classifyForSync_ne_group

variable (libraries readByUri) in
theorem getFile_image (isLatest : latestPreviewRepresentation ports =
      .ok (some rep)) (isImage : rep.classifyForSync = .image) :
    ∃ output, getFile libraries ports readByUri rep.deriveImageFilename =
      .ok output ∧ output.bytes = rep.bytes := by
  refine ⟨serveImage rep, ?_, rfl⟩
  unfold getFile
  rw [isLatest]
  simp [isImage, LatestPasteRepresentation.deriveDataName]

theorem getFile_file {name : String} (isLatest :
      latestPreviewRepresentation ports = .ok (some rep))
    (isFile : rep.classifyForSync = .file)
    (isName : rep.deriveDataName libraries.pathSegments .file = some name) :
    getFile libraries ports readByUri name = serveFile readByUri rep := by
  unfold getFile
  rw [isLatest]
  simp [isFile, isName]

theorem serveFile_eq_ok {output : GetMobileSyncFileOutput}
    (isServed : serveFile readByUri rep = .ok output) :
    ∃ uri, parseFirstUriFromUriList rep.bytes = some uri ∧
      readByUri uri = .ok output.bytes := by
  unfold serveFile at isServed
  split at isServed
  · cases isServed
  · rename_i uri isUri
    split at isServed
    · rename_i bytes isBytes
      cases isServed
      exact ⟨uri, isUri, isBytes⟩
    · cases isServed
    · cases isServed
    · cases isServed

end Agreement

/-- The metadata describes what the file request serves exactly where the
latest clip is no file list, or names first a file whose content is the text of
the list itself. -/
theorem metadataMatchesFile_iff (libraries : MobileSyncLibraries)
    (ports later : MobileSyncSnapshotPorts)
    (readByUri : String → Except MobileFileStagingError (List UInt8))
    (unchanged : latestPreviewRepresentation later =
      latestPreviewRepresentation ports)
    (collisionFree : ∀ rep, latestPreviewRepresentation ports =
        .ok (some rep) → ∀ uri bytes, readByUri uri = .ok bytes →
      profileHashForSync libraries bytes =
        profileHashForSync libraries rep.bytes → bytes = rep.bytes) :
    MetadataMatchesFile libraries ports later readByUri ↔
      ∀ rep, latestPreviewRepresentation ports = .ok (some rep) →
        rep.classifyForSync = .file →
          ∃ uri, parseFirstUriFromUriList rep.bytes = some uri ∧
            readByUri uri = .ok rep.bytes := by
  have isDoc : ∀ rep, latestPreviewRepresentation ports = .ok (some rep) →
      getLatestDoc libraries ports = .ok (metaOf libraries rep) := by
    intro rep isLatest
    unfold getLatestDoc
    rw [isLatest]
  constructor
  · intro agrees rep isLatest isFile
    have hasData : (metaOf libraries rep).hasData = true := by
      rw [hasData_metaOf, isFile]
      decide
    have isName : ∃ name,
        rep.deriveDataName libraries.pathSegments .file = some name :=
      ⟨_, rfl⟩
    obtain ⟨name, isName⟩ := isName
    have named : (metaOf libraries rep).dataName = some name := by
      unfold metaOf
      rw [isFile]
      exact isName
    obtain ⟨output, isOutput, _, sameHash⟩ :=
      agrees _ _ _ (isDoc rep isLatest) hasData named rfl
    rw [getFile_file (unchanged.trans isLatest) isFile isName] at isOutput
    obtain ⟨uri, isUri, isRead⟩ := serveFile_eq_ok isOutput
    have sameBytes :=
      collisionFree rep isLatest uri output.bytes isRead sameHash
    rw [sameBytes] at isRead
    exact ⟨uri, isUri, isRead⟩
  · intro condition doc name hash isAnswer hasData isName isHash
    unfold getLatestDoc at isAnswer
    split at isAnswer
    · cases isAnswer
    · cases isAnswer
    · rename_i rep isLatest
      cases isAnswer
      cases isHash
      cases isType : rep.classifyForSync with
      | text => exact absurd isType (hasData_metaOf.mp hasData)
      | group => exact absurd isType classifyForSync_ne_group
      | image =>
          have isImageName : name = rep.deriveImageFilename := by
            have given := isName
            unfold metaOf LatestPasteRepresentation.deriveDataName at given
            rw [isType] at given
            exact (Option.some.inj given).symm
          obtain ⟨output, isOutput, sameBytes⟩ :=
            getFile_image libraries readByUri (unchanged.trans isLatest)
              isType
          rw [isImageName]
          refine ⟨output, isOutput, ?_, ?_⟩
          · rw [sameBytes]
            rfl
          · rw [sameBytes]
      | file =>
          have isFileName :
              rep.deriveDataName libraries.pathSegments .file = some name := by
            have given := isName
            unfold metaOf at given
            rw [isType] at given
            exact given
          obtain ⟨uri, isUri, isRead⟩ := condition rep isLatest isType
          refine ⟨⟨fileOutboundMimeFallback, rep.bytes⟩, ?_, rfl, rfl⟩
          rw [getFile_file (unchanged.trans isLatest) isType isFileName]
          unfold serveFile
          rw [isUri]
          simp only [isRead]

/-! ## A clip of one file -/

namespace Sample

def clipPorts (formatId mime : String) (bytes : List UInt8) :
    MobileSyncSnapshotPorts where
  consumable := .ok (some ⟨"blake3v1:00", ⟨"entry"⟩⟩)
  sources := {
    getEntry := fun _ => .ok (some ⟨"entry", "event", 0⟩)
    getSelection := fun _ => .ok (some ⟨"rep", "rep", "rep", []⟩)
    getRepresentation := fun _ => .ok (some ⟨"rep", ⟨formatId⟩, some ⟨mime⟩,
      bytes.length, some bytes, none, .inline, none⟩)
    resolve := resolvePayload (fun _ => none) (fun _ => .ok none)
    getBlob := fun _ => .error "no blob" }
  describe _ := "unavailable"

/-- A hash that shows the bytes. -/
def mobileLibraries : MobileSyncLibraries where
  sha256 := id
  pathSegments _ := some ["note.txt"]

def noteFile (uri : String) :
    Except MobileFileStagingError (List UInt8) :=
  if uri = "file:///cache/note.txt" then .ok (asBytes "hello")
  else .error .notFound

end Sample

open Sample in
/-- An image is described as it is served. -/
theorem metadataMatchesFile_iff_image :
    MetadataMatchesFile mobileLibraries (clipPorts "image" "image/png" [1, 2])
      (clipPorts "image" "image/png" [1, 2])
      (fun _ => .error .notFound) := by
  have isLatest : latestPreviewRepresentation
      (clipPorts "image" "image/png" [1, 2]) = .ok (some ⟨⟨"entry"⟩,
        "blake3v1:00", ⟨"image"⟩, some ⟨"image/png"⟩, [1, 2]⟩) := by
    decide +kernel
  apply (metadataMatchesFile_iff mobileLibraries
    (clipPorts "image" "image/png" [1, 2])
    (clipPorts "image" "image/png" [1, 2]) (fun _ => .error .notFound) rfl
    (fun _ _ _ _ isRead _ => by cases isRead)).mpr
  intro rep isRep isFile
  rw [isLatest] at isRep
  cases isRep
  exact absurd isFile (by decide +kernel)

open Sample in
/-- The document of a file gives the size of the list. -/
theorem fileMetadata_describes_list :
    ¬ ∀ (libraries : MobileSyncLibraries) (ports later : MobileSyncSnapshotPorts)
      (readByUri : String → Except MobileFileStagingError (List UInt8)),
      latestPreviewRepresentation later = latestPreviewRepresentation ports →
        MetadataMatchesFile libraries ports later readByUri := by
  intro agrees
  have isList : latestPreviewRepresentation (clipPorts "files" "text/uri-list"
      (asBytes "file:///cache/note.txt\n")) = .ok (some ⟨⟨"entry"⟩,
        "blake3v1:00", ⟨"files"⟩, some ⟨"text/uri-list"⟩,
        asBytes "file:///cache/note.txt\n"⟩) := by
    decide +kernel
  have isDoc : ∃ doc, getLatestDoc mobileLibraries (clipPorts "files"
      "text/uri-list" (asBytes "file:///cache/note.txt\n")) = .ok doc ∧
      doc.hasData = true ∧ doc.dataName = some "note.txt" ∧
      doc.size = 23 ∧ doc.hash.isSome = true := by
    unfold getLatestDoc
    rw [isList]
    exact ⟨_, rfl, by decide +kernel⟩
  obtain ⟨doc, isAnswer, hasData, isName, isSize, hasHash⟩ := isDoc
  obtain ⟨hash, isHash⟩ := Option.isSome_iff_exists.mp hasHash
  obtain ⟨output, isOutput, sameSize, _⟩ := agrees mobileLibraries _ _ noteFile
    rfl doc "note.txt" hash isAnswer hasData isName isHash
  have served : getFile mobileLibraries (clipPorts "files" "text/uri-list"
      (asBytes "file:///cache/note.txt\n")) noteFile "note.txt" =
        .ok ⟨"application/octet-stream", asBytes "hello"⟩ := by
    unfold getFile
    rw [isList]
    decide +kernel
  rw [served] at isOutput
  cases isOutput
  rw [isSize] at sameSize
  exact absurd sameSize (by decide +kernel)

end OpenClipboard.MobileSync
