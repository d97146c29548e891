import OpenClipboard.Outbound.Dispatch
import OpenClipboard.Outbound.RootMarks

/-!
# All members of a manifest, or no payload

A payload covers a manifest if its file references are those of all the paths
of the manifest, one each.  The assembled payload always does.  A dispatched
flat set does only if the planner keeps every file or suppresses the send.
-/

namespace OpenClipboard

open Text PartialMap

/-! ## References of published files -/

section Publish

variable {gateway : OutboundBlobPublishGateway} {blake3 : Blake3}

/-- The reference that publishing a path has left. -/
def IsRefOf (gateway : OutboundBlobPublishGateway) (path : PathBuf)
    (blobRef : V3BlobRef) : Prop :=
  ∃ result, gateway.publishBlobPath path = .ok result ∧
    blobRef.ticket = result.ticket

/-- The references that stand for files, not for representations. -/
def fileRefs (blobRefs : List V3BlobRef) : List V3BlobRef :=
  blobRefs.filter fun blobRef => blobRef.representationIndex.isNone

/-- The file references of the payload are those of the paths, one each. -/
def CoversMembers (gateway : OutboundBlobPublishGateway)
    (paths : List PathBuf) (payload : OutboundPayload) : Prop :=
  List.Forall₂ (IsRefOf gateway) paths (fileRefs payload.blobRefs)

theorem fileRefs_eq_nil
    {imageRefs : List V3BlobRef}
    (images : ∀ blobRef ∈ imageRefs,
      blobRef.representationIndex.isSome = true) :
    fileRefs imageRefs = [] := by
  rw [fileRefs, List.filter_eq_nil_iff]
  intro blobRef member
  simp [Option.isSome_iff_ne_none.mp (images blobRef member)]

theorem fileRefs_append
    {files : List FileSyncIntent} {blobRefs imageRefs : List V3BlobRef}
    {digests : List Digest}
    (published : publishFileBlobRefs gateway files = .ok (blobRefs, digests))
    (images : ∀ blobRef ∈ imageRefs,
      blobRef.representationIndex.isSome = true) :
    fileRefs (blobRefs ++ imageRefs) = blobRefs := by
  have files := (publishFileBlobRefs_ok published).1
  have noImages := fileRefs_eq_nil images
  have allFiles : fileRefs blobRefs = blobRefs := by
    rw [fileRefs, List.filter_eq_self]
    intro blobRef member
    obtain ⟨file, _, result, _, rfl⟩ := exists_of_forall₂ files member
    rfl
  rw [fileRefs, List.filter_append]
  exact (congrArg₂ _ allFiles noImages).trans (List.append_nil _)

end Publish

/-! ## The two send paths -/

variable {paths : List PathBuf} {payload : OutboundPayload}

section Send

variable {urlParse : UrlParse} {blake3 : Blake3}
variable {gateway : OutboundBlobPublishGateway}
variable {settings : SettingsLoad} {metadata : PathBuf → Option Nat}
variable {loaded : FileSetLoad} {snapshot : SystemClipboardSnapshot}

theorem coversMembers_iff {candidates : List FileCandidate}
    {origin : ClipboardChangeOrigin} {planned : SystemClipboardSnapshot}
    {count : Nat} {files : List V3BlobRef × List Digest}
    {imageRefs : List V3BlobRef}
    (found : fileCandidates metadata true paths = some candidates)
    (published : publishFileBlobRefs gateway (OutboundSyncPlanner.plan settings
      planned origin candidates count).files = .ok files)
    (images : ∀ blobRef ∈ imageRefs,
      blobRef.representationIndex.isSome = true)
    (refs : payload.blobRefs = files.1 ++ imageRefs) :
    CoversMembers gateway paths payload ↔
      (OutboundSyncPlanner.plan settings planned origin candidates
        count).files.length = paths.length := by
  have pathsEq := candidates_path found
  have fileRefsEq := fileRefs_append published images
  have pointwise := (publishFileBlobRefs_ok published).1
  rw [CoversMembers, refs, fileRefsEq]
  constructor
  · intro covered
    rw [pointwise.length_eq, covered.length_eq]
  · intro sameLength
    have complete := plan_complete (sameLength.trans
      (by rw [← pathsEq, List.length_map]))
    rw [← pathsEq, ← complete, List.forall₂_map_left_iff]
    exact pointwise.imp fun file blobRef isRef => by
      obtain ⟨result, isPublished, rfl⟩ := isRef
      exact ⟨result, isPublished, rfl⟩

theorem assembleOutboundPayload_covers
    {members : Option (List DirectoryMemberSource)}
    (isResolved : (resolveOutboundFileSet urlParse loaded
      snapshot).resolvedFiles = some ⟨paths, true, members⟩)
    (assembled : assembleOutboundPayload urlParse blake3 gateway settings
      metadata loaded snapshot = .ok payload) :
    CoversMembers gateway paths payload := by
  obtain ⟨resolved, resolvedEq, candidates, found, planned, _, checked,
    every, files, published, manifest, _, stamped, _, images, imaged, rfl⟩ :=
    assembleOutboundPayload_eq_ok_iff.mp assembled
  rw [isResolved, Option.some.injEq] at resolvedEq
  subst resolvedEq
  have imageRefs := (publishOversizedInlineBlobRefs_ok
    (show publishOversizedInlineBlobRefs gateway blake3 stamped =
      .ok (images.1, images.2) from imaged)).1
  refine (coversMembers_iff found published imageRefs rfl).mpr ?_
  unfold requireEveryMember at every
  by_contra different
  rw [if_pos ⟨rfl, different⟩] at every
  cases every

def Publishable (gateway : OutboundBlobPublishGateway)
    (settings : SettingsLoad) (metadata : PathBuf → Option Nat)
    (paths : List PathBuf) (snapshot : SystemClipboardSnapshot) : Prop :=
  (∀ path ∈ paths, ∀ size, metadata path = some size →
      KeepsFile settings size →
        ∃ result, gateway.publishBlobPath path = .ok result) ∧
    ImagesPublishable gateway snapshot

/-- What a flat set needs for a partial send: it is readable, the planner keeps
neither all files nor suppresses the send, and all it sends is published. -/
theorem exists_partialDispatch
    (isResolved : (resolveOutboundFileSet urlParse loaded
      (stripLocalFiles snapshot)).resolvedFiles = some ⟨paths, true, none⟩)
    (readable : ∀ path ∈ paths, metadata path ≠ none)
    (splits : ¬ KeepsSet settings (paths.filterMap metadata))
    (publishable : Publishable gateway settings metadata paths
      (stripLocalFiles snapshot)) :
    ∃ payload, dispatchCapture urlParse blake3 gateway settings metadata
        loaded .localCapture snapshot = .ok payload ∧
      ¬ CoversMembers gateway paths payload := by
  obtain ⟨candidates, found⟩ := exists_fileCandidates readable
  have pathsEq := candidates_path found
  have sameLength : paths.length = candidates.length := by
    rw [← pathsEq, List.length_map]
  have notKept := mt (keepsSet_iff settings (stripLocalFiles snapshot)
    candidates).mpr (by rwa [candidates_size found])
  rw [not_or, ← sameLength] at notKept
  obtain ⟨sends, incomplete⟩ := notKept
  obtain ⟨planned, isPlanned⟩ := Option.ne_none_iff_exists'.mp sends
  have plannedEq : planned = stripLocalFiles snapshot :=
    (OutboundSyncPlanner.plan_cases _ _ _ _ _).2 planned isPlanned
  have filesPublishable : ∀ file ∈ (OutboundSyncPlanner.plan settings
      (stripLocalFiles snapshot) .localCapture candidates
      paths.length).files,
        ∃ result, gateway.publishBlobPath file.path = .ok result := by
    intro file inPlan
    rw [sameLength] at inPlan
    obtain ⟨candidate, member, pathEq, kept⟩ := mem_plan_files inPlan
    obtain ⟨inPaths, isSize⟩ := mem_candidates found member
    rw [← pathEq]
    exact publishable.1 candidate.path inPaths candidate.size isSize kept
  obtain ⟨files, published⟩ := exists_publishFileBlobRefs filesPublishable
  obtain ⟨images, imaged⟩ : ∃ images, publishOversizedInlineBlobRefs gateway
      blake3 planned = .ok images := by
    rw [plannedEq]
    exact exists_publishOversizedInlineBlobRefs publishable.2
  obtain ⟨stamped, isStamped⟩ : ∃ stamped, stampFileIdentity blake3 none
      files.2 images.1 = .ok stamped := by
    unfold stampFileIdentity
    split
    · cases ‹none = some _›
    · split
      · exact ⟨_, rfl⟩
      · exact ⟨_, rfl⟩
  refine ⟨⟨stamped, files.1 ++ images.2, none⟩, ?_, ?_⟩
  · exact dispatchCapture_eq_ok_iff.mpr ⟨_, isResolved, candidates, found,
      planned, isPlanned, files, published, images, imaged, none, rfl,
      stamped, isStamped, rfl⟩
  · have imageRefs := (publishOversizedInlineBlobRefs_ok
      (show publishOversizedInlineBlobRefs gateway blake3 planned =
        .ok (images.1, images.2) from imaged)).1
    intro covered
    exact incomplete ((coversMembers_iff found published imageRefs rfl).mp
      covered)

/-- A dispatched payload covers a manifest-backed set in every case but one: a
flat set, readable and publishable, of which the planner keeps some files only
or sends the text without them. -/
theorem dispatchCapture_covers_iff
    {members : Option (List DirectoryMemberSource)}
    (isResolved : (resolveOutboundFileSet urlParse loaded
      (stripLocalFiles snapshot)).resolvedFiles =
        some ⟨paths, true, members⟩) :
    (∀ payload, dispatchCapture urlParse blake3 gateway settings metadata
        loaded .localCapture snapshot = .ok payload →
          CoversMembers gateway paths payload) ↔
      members.isSome = true ∨ (∃ path ∈ paths, metadata path = none) ∨
        KeepsSet settings (paths.filterMap metadata) ∨
          ¬ Publishable gateway settings metadata paths
            (stripLocalFiles snapshot) := by
  constructor
  · intro covers
    by_contra fails
    simp only [not_or, not_exists, not_and, not_not] at fails
    obtain ⟨flat, readable, splits, publishable⟩ := fails
    rw [Bool.not_eq_true, Option.isSome_eq_false_iff,
      Option.isNone_iff_eq_none] at flat
    subst flat
    obtain ⟨payload, isSent, uncovered⟩ : ∃ payload, dispatchCapture urlParse
          blake3 gateway settings metadata loaded .localCapture snapshot =
            .ok payload ∧ ¬ CoversMembers gateway paths payload :=
      exists_partialDispatch isResolved readable splits publishable
    exact uncovered (covers payload isSent)
  · intro condition payload isSent
    obtain ⟨resolved, resolvedEq, candidates, found, planned, isPlanned,
      files, published, images, imaged, manifest, isManifest, stamped, _,
      rfl⟩ := dispatchCapture_eq_ok_iff.mp isSent
    rw [isResolved, Option.some.injEq] at resolvedEq
    subst resolvedEq
    simp only at found isPlanned published isManifest
    obtain ⟨imageRefs, publishedImages⟩ := publishOversizedInlineBlobRefs_ok
      (show publishOversizedInlineBlobRefs gateway blake3 planned =
        .ok (images.1, images.2) from imaged)
    have plannedEq : planned = stripLocalFiles snapshot :=
      (OutboundSyncPlanner.plan_cases _ _ _ _ _).2 planned isPlanned
    rw [plannedEq] at publishedImages
    have sameLength : paths.length = candidates.length := by
      rw [← candidates_path found, List.length_map]
    refine (coversMembers_iff found published imageRefs rfl).mpr ?_
    obtain directory | ⟨path, inPaths, unreadable⟩ | kept | unpublishable :=
      condition
    · obtain ⟨sources, rfl⟩ := Option.isSome_iff_exists.mp directory
      by_contra different
      unfold dispatchManifest at isManifest
      simp only [if_pos different] at isManifest
      cases isManifest
    · rw [← candidates_path found] at inPaths
      obtain ⟨candidate, member, rfl⟩ := List.mem_map.mp inPaths
      have isSize := (mem_candidates found member).2
      rw [unreadable] at isSize
      cases isSize
    · rw [← candidates_size found, keepsSet_iff settings
        (stripLocalFiles snapshot) candidates, ← sameLength] at kept
      obtain suppressed | complete := kept
      · rw [suppressed] at isPlanned
        cases isPlanned
      · exact complete
    · refine absurd ⟨?_, publishedImages⟩ unpublishable
      intro path inPaths size isSize kept
      rw [← candidates_path found] at inPaths
      obtain ⟨candidate, member, rfl⟩ := List.mem_map.mp inPaths
      have sizeEq := (mem_candidates found member).2
      rw [isSize, Option.some.injEq] at sizeEq
      subst sizeEq
      obtain ⟨file, inPlan, pathEq⟩ : ∃ file ∈ (OutboundSyncPlanner.plan
          settings (stripLocalFiles snapshot) .localCapture candidates
          candidates.length).files, file.path = candidate.path :=
        plan_files_of_kept member kept
      rw [← sameLength] at inPlan
      obtain ⟨refs, _⟩ := publishFileBlobRefs_ok
        (show publishFileBlobRefs gateway _ = .ok (files.1, files.2)
          from published)
      obtain ⟨blobRef, _, result, isPublished, _⟩ :=
        exists_of_forall₂ refs.flip inPlan
      exact ⟨result, pathEq ▸ isPublished⟩

end Send

/-! ## Sets backed by a persisted manifest -/

section Manifest

variable {urlParse : UrlParse} {blake3 : Blake3}
variable {gateway : OutboundBlobPublishGateway}
variable {settings : SettingsLoad} {metadata : PathBuf → Option Nat}
variable {fileSet : EntryFileSet} {snapshot : SystemClipboardSnapshot}

/-- The files of a persisted manifest; none for a set with excluded lines,
which nobody can send whole. -/
def manifestFiles (urlParse : UrlParse) (fileSet : EntryFileSet) :
    Option ResolvedFiles :=
  if fileSet.hasExcluded then
    none
  else
    (resolveComplete urlParse fileSet []).resolvedFiles

/-- The manifest is not given up for the paths of the representations. -/
def ManifestBacked (urlParse : UrlParse) (fileSet : EntryFileSet) : Prop :=
  ∀ files, manifestFiles urlParse fileSet = some files →
    files.fromManifest = true

def SendsWholeSet {ε : Type} (gateway : OutboundBlobPublishGateway)
    (files : Option ResolvedFiles) (sent : Except ε OutboundPayload) : Prop :=
  ∀ payload, sent = .ok payload →
    ∃ set, files = some set ∧ CoversMembers gateway set.paths payload

def SystemClipboardSnapshot.hasFileRep (snapshot : SystemClipboardSnapshot) :
    Bool :=
  snapshot.representations.any ObservedClipboardRepresentation.isFile

/-- The representations are enough: there are no files, or an oversized image
fails the send. -/
def NoFilesToSend (gateway : OutboundBlobPublishGateway)
    (files : Option ResolvedFiles) (snapshot : SystemClipboardSnapshot) :
    Prop :=
  (∃ set, files = some set ∧ set.paths = []) ∨
    ¬ ImagesPublishable gateway snapshot

/-- A dispatched set is a directory set, or its files are kept together. -/
def DispatchKeepsTogether (gateway : OutboundBlobPublishGateway)
    (settings : SettingsLoad) (metadata : PathBuf → Option Nat)
    (files : Option ResolvedFiles) (snapshot : SystemClipboardSnapshot) :
    Prop :=
  ∀ set, files = some set →
    set.directoryMembers.isSome = true ∨
      (∃ path ∈ set.paths, metadata path = none) ∨
        KeepsSet settings (set.paths.filterMap metadata) ∨
          ¬ Publishable gateway settings metadata set.paths snapshot

theorem resolveComplete_manifest
    (reps : List PathBuf) {set : ResolvedFiles}
    (listed : (resolveComplete urlParse fileSet []).resolvedFiles = some set)
    (fromManifest : set.fromManifest = true) :
    (resolveComplete urlParse fileSet reps).resolvedFiles = some set := by
  unfold resolveComplete at listed ⊢
  split at listed
  · rename_i structured
    rw [if_pos structured]
    split at listed
    · cases listed
      cases fromManifest
    · exact listed
  · rename_i flat
    rw [if_neg flat]
    split at listed
    · cases listed
      cases fromManifest
    · exact listed

theorem resolvedFiles_of_manifestBacked
    (backed : ManifestBacked urlParse fileSet)
    (fileClass : snapshot.hasFileRep = true) :
    (resolveOutboundFileSet urlParse (.ok (some fileSet))
      snapshot).resolvedFiles = manifestFiles urlParse fileSet := by
  by_cases excluded : fileSet.hasExcluded = true
  · obtain ⟨ingestFailed, sizeCapExceeded, unsupportedMember, isExcluded⟩ :
        ∃ ingestFailed sizeCapExceeded unsupportedMember,
          resolveOutboundFileSet urlParse (.ok (some fileSet)) snapshot =
            .excluded ingestFailed sizeCapExceeded unsupportedMember :=
      resolveOutboundFileSet_of_excluded fileClass excluded
    rw [isExcluded, manifestFiles, if_pos excluded]
    rfl
  · have filesEq : manifestFiles urlParse fileSet =
        (resolveComplete urlParse fileSet []).resolvedFiles :=
      if_neg excluded
    rw [Bool.not_eq_true] at excluded
    rw [resolveOutboundFileSet_of_complete fileClass excluded, filesEq]
    cases listed : (resolveComplete urlParse fileSet []).resolvedFiles with
    | none =>
        unfold resolveComplete at listed
        split at listed
        · split at listed
          · cases listed
          · cases listed
        · split at listed
          · cases listed
          · cases listed
    | some set =>
        exact resolveComplete_manifest _ listed
          (backed set (filesEq.trans listed))

theorem coversMembers_noFiles_iff (noFiles : fileRefs payload.blobRefs = []) :
    CoversMembers gateway paths payload ↔ paths = [] := by
  rw [CoversMembers, noFiles, List.forall₂_nil_right_iff]

theorem sendsWholeSet_iff_noFiles
    {ε : Type} {files : Option ResolvedFiles} {sent : Except ε OutboundPayload}
    (sends : ∀ payload, sent = .ok payload ↔
      ∃ images, publishOversizedInlineBlobRefs gateway blake3 snapshot =
          .ok images ∧
        ⟨images.1, images.2, none⟩ = payload) :
    SendsWholeSet gateway files sent ↔
      NoFilesToSend gateway files snapshot := by
  constructor
  · intro whole
    by_cases publishable : ImagesPublishable gateway snapshot
    · obtain ⟨images, imaged⟩ : ∃ images, publishOversizedInlineBlobRefs
          gateway blake3 snapshot = .ok images :=
        exists_publishOversizedInlineBlobRefs publishable
      obtain ⟨set, filesEq, covered⟩ :=
        whole _ ((sends _).mpr ⟨images, imaged, rfl⟩)
      exact Or.inl ⟨set, filesEq,
        (coversMembers_noFiles_iff (fileRefs_eq_nil
          (publishOversizedInlineBlobRefs_ok imaged).1)).mp covered⟩
    · exact Or.inr publishable
  · intro condition payload isSent
    obtain ⟨images, imaged, rfl⟩ := (sends payload).mp isSent
    obtain ⟨set, filesEq, noPaths⟩ | unpublishable := condition
    · exact ⟨set, filesEq,
        (coversMembers_noFiles_iff (fileRefs_eq_nil
          (publishOversizedInlineBlobRefs_ok imaged).1)).mpr noPaths⟩
    · exact absurd (publishOversizedInlineBlobRefs_ok imaged).2 unpublishable

theorem dispatchCapture_notFileClass {loaded : FileSetLoad}
    (notFileClass : (stripLocalFiles snapshot).hasFileRep = false) :
    dispatchCapture urlParse blake3 gateway settings metadata loaded
        .localCapture snapshot = .ok payload ↔
      ∃ images, publishOversizedInlineBlobRefs gateway blake3
          (stripLocalFiles snapshot) = .ok images ∧
        ⟨images.1, images.2, none⟩ = payload := by
  have noFile : resolveOutboundFileSet urlParse loaded
      (stripLocalFiles snapshot) = .notFileClass :=
    resolveOutboundFileSet_of_notFileClass loaded
      (Bool.not_eq_true _ ▸ notFileClass)
  have planEq : OutboundSyncPlanner.plan settings (stripLocalFiles snapshot)
      .localCapture [] 0 = ⟨some (stripLocalFiles snapshot), []⟩ :=
    OutboundSyncPlanner.plan_of_noFiles settings rfl
  rw [dispatchCapture_eq_ok_iff, noFile]
  simp [OutboundFileSetResolution.resolvedFiles, fileCandidates, planEq,
    publishFileBlobRefs, dispatchManifest, stampFileIdentity]

theorem assembleOutboundPayload_notFileClass {loaded : FileSetLoad}
    (notFileClass : snapshot.hasFileRep = false) :
    assembleOutboundPayload urlParse blake3 gateway settings metadata loaded
        snapshot = .ok payload ↔
      ∃ images, publishOversizedInlineBlobRefs gateway blake3 snapshot =
          .ok images ∧
        ⟨images.1, images.2, none⟩ = payload := by
  have noFile : resolveOutboundFileSet urlParse loaded snapshot =
      .notFileClass :=
    resolveOutboundFileSet_of_notFileClass loaded
      (Bool.not_eq_true _ ▸ notFileClass)
  have planEq : OutboundSyncPlanner.plan settings snapshot .resend [] 0 =
      ⟨some snapshot, []⟩ :=
    OutboundSyncPlanner.plan_of_noFiles settings rfl
  rw [assembleOutboundPayload_eq_ok_iff, noFile]
  simp [OutboundFileSetResolution.resolvedFiles, fileCandidates, planEq,
    requireEveryMember, assembledManifest, publishFileBlobRefs,
    stampFileIdentity]

theorem dispatchCapture_fileClass_iff
    (backed : ManifestBacked urlParse fileSet)
    (fileClass : (stripLocalFiles snapshot).hasFileRep = true) :
    SendsWholeSet gateway (manifestFiles urlParse fileSet)
        (dispatchCapture urlParse blake3 gateway settings metadata
          (.ok (some fileSet)) .localCapture snapshot) ↔
      DispatchKeepsTogether gateway settings metadata
        (manifestFiles urlParse fileSet) (stripLocalFiles snapshot) := by
  have resolvedEq := resolvedFiles_of_manifestBacked backed fileClass
  cases filesEq : manifestFiles urlParse fileSet with
  | none =>
      rw [filesEq] at resolvedEq
      constructor
      · intro _ set isSet
        cases isSet
      · intro _ payload isSent
        obtain ⟨resolved, isResolved, _⟩ :=
          dispatchCapture_eq_ok_iff.mp isSent
        rw [resolvedEq] at isResolved
        cases isResolved
  | some set =>
      obtain ⟨paths, fromManifest, members⟩ := set
      have isManifest : fromManifest = true := backed _ filesEq
      subst isManifest
      rw [filesEq] at resolvedEq
      simpa [SendsWholeSet, DispatchKeepsTogether] using
        dispatchCapture_covers_iff resolvedEq

theorem assembleOutboundPayload_fileClass
    (backed : ManifestBacked urlParse fileSet)
    (fileClass : snapshot.hasFileRep = true) :
    SendsWholeSet gateway (manifestFiles urlParse fileSet)
      (assembleOutboundPayload urlParse blake3 gateway settings metadata
        (.ok (some fileSet)) snapshot) := by
  have resolvedEq := resolvedFiles_of_manifestBacked backed fileClass
  intro payload assembled
  obtain ⟨set, isResolved, _⟩ := assembleOutboundPayload_eq_ok_iff.mp assembled
  have filesEq := resolvedEq.symm.trans isResolved
  obtain ⟨paths, fromManifest, members⟩ := set
  have isManifest : fromManifest = true := backed _ filesEq
  subst isManifest
  exact ⟨_, filesEq, assembleOutboundPayload_covers isResolved assembled⟩

theorem allOrNothing
    (backed : ManifestBacked urlParse fileSet)
    (captured rebuilt : SystemClipboardSnapshot) :
    (SendsWholeSet gateway (manifestFiles urlParse fileSet)
          (dispatchCapture urlParse blake3 gateway settings metadata
            (.ok (some fileSet)) .localCapture captured) ∧
        SendsWholeSet gateway (manifestFiles urlParse fileSet)
          (assembleOutboundPayload urlParse blake3 gateway settings metadata
            (.ok (some fileSet)) rebuilt)) ↔
      (if (stripLocalFiles captured).hasFileRep then
          DispatchKeepsTogether gateway settings metadata
            (manifestFiles urlParse fileSet) (stripLocalFiles captured)
        else
          NoFilesToSend gateway (manifestFiles urlParse fileSet)
            (stripLocalFiles captured)) ∧
        (rebuilt.hasFileRep = true ∨
          NoFilesToSend gateway (manifestFiles urlParse fileSet) rebuilt) := by
  apply and_congr
  · by_cases fileClass : (stripLocalFiles captured).hasFileRep = true
    · rw [if_pos fileClass]
      exact dispatchCapture_fileClass_iff backed fileClass
    · rw [if_neg fileClass]
      rw [Bool.not_eq_true] at fileClass
      exact sendsWholeSet_iff_noFiles fun payload =>
        dispatchCapture_notFileClass fileClass
  · by_cases fileClass : rebuilt.hasFileRep = true
    · simp only [fileClass, true_or, iff_true]
      exact assembleOutboundPayload_fileClass backed fileClass
    · have onlyReps : SendsWholeSet gateway (manifestFiles urlParse fileSet)
          (assembleOutboundPayload urlParse blake3 gateway settings metadata
            (.ok (some fileSet)) rebuilt) ↔
          NoFilesToSend gateway (manifestFiles urlParse fileSet) rebuilt :=
        sendsWholeSet_iff_noFiles fun payload =>
          assembleOutboundPayload_notFileClass (by simpa using fileClass)
      rw [onlyReps, or_iff_right fileClass]

end Manifest

/-! ## Two files of different sizes -/

def twoFiles : FileSystem :=
  .ofTree (.directory
    [(plainName "a", plainFile "x"), (plainName "b", plainFile "yz")])
    (by decide)

def twoFilesSnapshot : SystemClipboardSnapshot :=
  uriListSnapshot "file:///a\nfile:///b"

def twoFilesManifest : EntryFileSet :=
  (buildEntryFileSet plainUnicode twoFiles positionalDigest plainUrlParse
    ⟨0, 0⟩ twoFilesSnapshot).getD ⟨[]⟩

def diskGateway (fs : FileSystem) : OutboundBlobPublishGateway where
  publishBlob bytes :=
    .ok ⟨Text.asBytes "inline", "entry",
      ContentHash.contentHash positionalDigest bytes⟩
  publishBlobPath path :=
    match fs.hashPath positionalDigest path with
    | some digest => .ok ⟨Text.asBytes path.display, "entry", digest⟩
    | none => .error "cannot read file"

def dispatchTwoFiles (maxFileSize : Nat) :
    Except DispatchStop OutboundPayload :=
  dispatchCapture plainUrlParse positionalDigest (diskGateway twoFiles)
    (.ok ⟨true, maxFileSize⟩) twoFiles.fileSize (.ok (some twoFilesManifest))
    .localCapture twoFilesSnapshot

theorem manifestFiles_twoFiles :
    manifestFiles plainUrlParse twoFilesManifest =
      some ⟨[PathBuf.fromText "/a", PathBuf.fromText "/b"], true, none⟩ := by
  decide +kernel

theorem manifestBacked_twoFiles :
    ManifestBacked plainUrlParse twoFilesManifest := by
  intro files isFiles
  rw [manifestFiles_twoFiles, Option.some.injEq] at isFiles
  subst isFiles
  rfl

def assembleTwoFiles : Except OutboundPayloadError OutboundPayload :=
  assembleOutboundPayload plainUrlParse positionalDigest (diskGateway twoFiles)
    (.ok ⟨true, 2⟩) twoFiles.fileSize (.ok (some twoFilesManifest))
    twoFilesSnapshot

/-- A cap above both sizes keeps the files together. -/
theorem allOrNothing_large_cap :
    SendsWholeSet (diskGateway twoFiles)
        (manifestFiles plainUrlParse twoFilesManifest) (dispatchTwoFiles 2) ∧
      (dispatchTwoFiles 2).toOption.isSome = true ∧
      SendsWholeSet (diskGateway twoFiles)
        (manifestFiles plainUrlParse twoFilesManifest) assembleTwoFiles := by
  have together : DispatchKeepsTogether (diskGateway twoFiles) (.ok ⟨true, 2⟩)
      twoFiles.fileSize (manifestFiles plainUrlParse twoFilesManifest)
      (stripLocalFiles twoFilesSnapshot) := by
    intro set isSet
    rw [manifestFiles_twoFiles, Option.some.injEq] at isSet
    subst isSet
    have small : ∀ size ∈ [PathBuf.fromText "/a",
        PathBuf.fromText "/b"].filterMap twoFiles.fileSize, size ≤ 2 := by
      decide +kernel
    exact Or.inr (Or.inr (Or.inl (Or.inl small)))
  have fileClass : (stripLocalFiles twoFilesSnapshot).hasFileRep = true := by
    decide +kernel
  have whole : SendsWholeSet (diskGateway twoFiles)
        (manifestFiles plainUrlParse twoFilesManifest) (dispatchTwoFiles 2) ∧
      SendsWholeSet (diskGateway twoFiles)
        (manifestFiles plainUrlParse twoFilesManifest) assembleTwoFiles :=
    (allOrNothing manifestBacked_twoFiles twoFilesSnapshot
      twoFilesSnapshot).mpr
      ⟨by rw [if_pos fileClass]; exact together, Or.inl (by decide +kernel)⟩
  exact ⟨whole.1, by decide +kernel, whole.2⟩

/-- A cap between the sizes lets one file through. -/
theorem smallCap_sends_subset :
    ManifestBacked plainUrlParse twoFilesManifest ∧
      ¬ SendsWholeSet (diskGateway twoFiles)
        (manifestFiles plainUrlParse twoFilesManifest)
        (dispatchTwoFiles 1) := by
  apply And.intro manifestBacked_twoFiles
  have oneRef : (dispatchTwoFiles 1).toOption.map
      (fun payload => (fileRefs payload.blobRefs).length) = some 1 := by
    decide +kernel
  intro whole
  cases result : dispatchTwoFiles 1 with
  | error stop =>
      rw [result] at oneRef
      cases oneRef
  | ok payload =>
      obtain ⟨set, isSet, covered⟩ := whole payload result
      rw [manifestFiles_twoFiles, Option.some.injEq] at isSet
      subst isSet
      rw [result] at oneRef
      have refCount : (fileRefs payload.blobRefs).length = 1 :=
        Option.some.inj oneRef
      have sameLength := covered.length_eq
      rw [refCount] at sameLength
      cases sameLength

end OpenClipboard
