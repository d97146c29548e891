import OpenClipboard.Outbound.Planner
import OpenClipboard.Wire.FileSetManifest

/-!
# Publishing blobs for a send

Files are published by path, oversized inline images by their bytes.  Each
published blob leaves a reference; a reference with a representation index
stands for the bytes of that representation, which are taken out.
-/

namespace OpenClipboard

open Text

abbrev BlobTicket := List UInt8

structure PublishBlobResult where
  ticket : BlobTicket
  entryId : String
  plaintextHash : Digest
  deriving DecidableEq, Repr

structure OutboundBlobPublishGateway where
  publishBlob : List UInt8 → Except String PublishBlobResult
  publishBlobPath : PathBuf → Except String PublishBlobResult

structure V3BlobRef where
  ticket : BlobTicket
  entryId : String
  filename : Option String
  mime : Option String
  sizeBytes : Nat
  representationIndex : Option Nat
  deriving DecidableEq, Repr

def u32Max : Nat := 2 ^ 32 - 1

section Publish

variable (gateway : OutboundBlobPublishGateway)

def fileBlobRef (file : FileSyncIntent) (result : PublishBlobResult) :
    V3BlobRef where
  ticket := result.ticket
  entryId := result.entryId
  filename := if file.filename.isEmpty then none else some file.filename
  mime := none
  sizeBytes := file.size
  representationIndex := none

/-- The references of the files and the digests of their contents. -/
def publishFileBlobRefs :
    List FileSyncIntent → Except String (List V3BlobRef × List Digest)
  | [] => .ok ([], [])
  | file :: rest =>
      match gateway.publishBlobPath file.path with
      | .error err => .error err
      | .ok result =>
          match publishFileBlobRefs rest with
          | .error err => .error err
          | .ok (blobRefs, digests) =>
              .ok (fileBlobRef file result :: blobRefs,
                result.plaintextHash :: digests)

def oversizedRepThresholdBytes : Nat := 64 * 1024

/-- An inline image above the threshold, by the start of its MIME text. -/
def isOversizedImage (rep : ObservedClipboardRepresentation) : Bool :=
  rep.inlineBytes.any (fun bytes =>
      decide (oversizedRepThresholdBytes < bytes.length)) &&
    rep.mime.any fun mime =>
      startsWith (toAsciiLowercase mime.asStr) "image/"

/-- The representation with its bytes taken out, the hash of which stays. -/
def emptied (blake3 : Blake3) (rep : ObservedClipboardRepresentation) :
    ObservedClipboardRepresentation :=
  { rep.withHashCached blake3 fun _ => none with source := .inline [] }

def publishOversizedRep (blake3 : Blake3) (index : Nat)
    (rep : ObservedClipboardRepresentation) :
    Except String (ObservedClipboardRepresentation × Option V3BlobRef) :=
  if isOversizedImage rep then
    let plaintext := rep.inlineBytes.getD []
    match gateway.publishBlob plaintext with
    | .error err => .error err
    | .ok result =>
        if u32Max < index then
          .error s!"representation index {index} cannot fit u32"
        else
          .ok (emptied blake3 rep, some {
            ticket := result.ticket
            entryId := result.entryId
            filename := none
            mime := rep.mime.map MimeType.asStr
            sizeBytes := plaintext.length
            representationIndex := some index })
  else
    .ok (rep, none)

def publishOversizedReps (blake3 : Blake3) :
    Nat → List ObservedClipboardRepresentation →
      Except String (List ObservedClipboardRepresentation × List V3BlobRef)
  | _, [] => .ok ([], [])
  | index, rep :: rest =>
      match publishOversizedRep gateway blake3 index rep with
      | .error err => .error err
      | .ok (published, blobRef) =>
          match publishOversizedReps blake3 (index + 1) rest with
          | .error err => .error err
          | .ok (reps, blobRefs) =>
              .ok (published :: reps, blobRef.toList ++ blobRefs)

def publishOversizedInlineBlobRefs (blake3 : Blake3)
    (snapshot : SystemClipboardSnapshot) :
    Except String (SystemClipboardSnapshot × List V3BlobRef) :=
  match publishOversizedReps gateway blake3 0 snapshot.representations with
  | .error err => .error err
  | .ok (reps, blobRefs) =>
      .ok ({ snapshot with representations := reps }, blobRefs)

end Publish

/-! ## What has been published -/

variable {blobRefs : List V3BlobRef} {index : Nat}
  {readFile : PathBuf → Option (List UInt8)}

section Published

variable {gateway : OutboundBlobPublishGateway} {blake3 : Blake3}

theorem publishFileBlobRefs_ok {files : List FileSyncIntent}
    {digests : List Digest}
    (published : publishFileBlobRefs gateway files =
      .ok (blobRefs, digests)) :
    List.Forall₂ (fun file blobRef => ∃ result,
        gateway.publishBlobPath file.path = .ok result ∧
          blobRef = fileBlobRef file result) files blobRefs ∧
      List.Forall₂ (fun file digest => ∃ result,
        gateway.publishBlobPath file.path = .ok result ∧
          digest = result.plaintextHash) files digests := by
  induction files generalizing blobRefs digests with
  | nil =>
      cases published
      exact ⟨List.Forall₂.nil, List.Forall₂.nil⟩
  | cons file rest inductionHypothesis =>
      unfold publishFileBlobRefs at published
      split at published
      · cases published
      · rename_i result here
        split at published
        · cases published
        · rename_i laterRefs laterDigests later
          cases published
          obtain ⟨refs, hashes⟩ := inductionHypothesis later
          exact ⟨List.Forall₂.cons ⟨result, here, rfl⟩ refs,
            List.Forall₂.cons ⟨result, here, rfl⟩ hashes⟩

theorem exists_publishFileBlobRefs
    {files : List FileSyncIntent}
    (publishable : ∀ file ∈ files,
      ∃ result, gateway.publishBlobPath file.path = .ok result) :
    ∃ published, publishFileBlobRefs gateway files = .ok published := by
  induction files with
  | nil => exact ⟨_, rfl⟩
  | cons file rest inductionHypothesis =>
      obtain ⟨result, here⟩ := publishable file List.mem_cons_self
      obtain ⟨published, later⟩ := inductionHypothesis fun other member =>
        publishable other (List.mem_cons_of_mem file member)
      unfold publishFileBlobRefs
      rw [here, later]
      exact ⟨_, rfl⟩

def ImagesPublishable (gateway : OutboundBlobPublishGateway)
    (snapshot : SystemClipboardSnapshot) : Prop :=
  ∀ (index : Nat) (rep : ObservedClipboardRepresentation),
    snapshot.representations[index]? = some rep →
      isOversizedImage rep = true → index ≤ u32Max ∧
        ∃ result, gateway.publishBlob (rep.inlineBytes.getD []) = .ok result

theorem publishOversizedReps_ok
    {reps published : List ObservedClipboardRepresentation}
    (done : publishOversizedReps gateway blake3 index reps =
      .ok (published, blobRefs)) :
    (∀ blobRef ∈ blobRefs, blobRef.representationIndex.isSome = true) ∧
      ∀ (offset : Nat) (rep : ObservedClipboardRepresentation),
        reps[offset]? = some rep → isOversizedImage rep = true →
          index + offset ≤ u32Max ∧ ∃ result,
            gateway.publishBlob (rep.inlineBytes.getD []) = .ok result := by
  induction reps generalizing index published blobRefs with
  | nil =>
      cases done
      simp
  | cons head tail inductionHypothesis =>
      unfold publishOversizedReps at done
      split at done
      · cases done
      · rename_i headPublished headRef here
        split at done
        · cases done
        · rename_i laterPublished laterRefs later
          cases done
          obtain ⟨laterBound, laterImages⟩ := inductionHypothesis later
          unfold publishOversizedRep at here
          split at here
          · rename_i oversized
            simp only at here
            split at here
            · cases here
            · rename_i result isPublished
              split at here
              · cases here
              · rename_i fits
                cases here
                refine ⟨?_, ?_⟩
                · simpa using laterBound
                · intro offset rep found isImage
                  cases offset with
                  | zero =>
                      simp only [List.getElem?_cons_zero,
                        Option.some.injEq] at found
                      subst found
                      exact ⟨by omega, result, isPublished⟩
                  | succ offset =>
                      obtain ⟨bound, image⟩ :=
                        laterImages offset rep (by simpa using found) isImage
                      exact ⟨by omega, image⟩
          · rename_i notOversized
            cases here
            refine ⟨by simpa using laterBound, ?_⟩
            intro offset rep found isImage
            cases offset with
            | zero =>
                simp only [List.getElem?_cons_zero,
                  Option.some.injEq] at found
                subst found
                exact absurd isImage notOversized
            | succ offset =>
                obtain ⟨bound, image⟩ :=
                  laterImages offset rep (by simpa using found) isImage
                exact ⟨by omega, image⟩

theorem exists_publishOversizedReps
    {reps : List ObservedClipboardRepresentation}
    (publishable : ∀ (offset : Nat) (rep : ObservedClipboardRepresentation),
      reps[offset]? = some rep → isOversizedImage rep = true →
        index + offset ≤ u32Max ∧ ∃ result,
          gateway.publishBlob (rep.inlineBytes.getD []) = .ok result) :
    ∃ done, publishOversizedReps gateway blake3 index reps = .ok done := by
  induction reps generalizing index with
  | nil => exact ⟨_, rfl⟩
  | cons head tail inductionHypothesis =>
      have here : ∃ published,
          publishOversizedRep gateway blake3 index head = .ok published := by
        unfold publishOversizedRep
        by_cases oversized : isOversizedImage head = true
        · obtain ⟨bound, result, isPublished⟩ :=
            publishable 0 head rfl oversized
          have fits : ¬ u32Max < index := by omega
          simp only [if_pos oversized, isPublished, if_neg fits]
          exact ⟨_, rfl⟩
        · simp only [if_neg oversized]
          exact ⟨_, rfl⟩
      obtain ⟨published, isPublished⟩ := here
      have restPublishable : ∀ (offset : Nat)
          (rep : ObservedClipboardRepresentation),
          tail[offset]? = some rep → isOversizedImage rep = true →
            index + 1 + offset ≤ u32Max ∧ ∃ result,
              gateway.publishBlob (rep.inlineBytes.getD []) = .ok result := by
        intro offset rep found isImage
        obtain ⟨bound, image⟩ :=
          publishable (offset + 1) rep (by simpa using found) isImage
        exact ⟨by omega, image⟩
      obtain ⟨done, later⟩ := inductionHypothesis restPublishable
      unfold publishOversizedReps
      rw [isPublished]
      simp only [later]
      exact ⟨_, rfl⟩

theorem publishOversizedRep_identity
    {rep published : ObservedClipboardRepresentation}
    {blobRef : Option V3BlobRef}
    (done : publishOversizedRep gateway blake3 index rep =
      .ok (published, blobRef)) :
    published.isFile = rep.isFile ∧
      published.contentHash blake3 readFile =
        rep.contentHash blake3 readFile := by
  unfold publishOversizedRep at done
  split at done
  · rename_i oversized
    obtain ⟨bytes, isInline⟩ : ∃ bytes, rep.source = .inline bytes := by
      unfold isOversizedImage ObservedClipboardRepresentation.inlineBytes
        at oversized
      cases isSource : rep.source with
      | inline bytes => exact ⟨bytes, rfl⟩
      | localFile path size => simp [isSource] at oversized
    have sameHash : (emptied blake3 rep).contentHash blake3 readFile =
        rep.contentHash blake3 readFile := by
      unfold emptied ObservedClipboardRepresentation.withHashCached
        ObservedClipboardRepresentation.contentHash
      cases rep.cachedHash with
      | some hash => rfl
      | none => simp only [isInline]
    simp only at done
    split at done
    · cases done
    · split at done
      · cases done
      · cases done
        exact ⟨rfl, sameHash⟩
  · cases done
    exact ⟨rfl, rfl⟩

theorem publishOversizedReps_identity
    {reps published : List ObservedClipboardRepresentation}
    (done : publishOversizedReps gateway blake3 index reps =
      .ok (published, blobRefs)) :
    List.Forall₂
      (fun (rep publishedRep : ObservedClipboardRepresentation) =>
        publishedRep.isFile = rep.isFile ∧
          publishedRep.contentHash blake3 readFile =
            rep.contentHash blake3 readFile) reps published := by
  induction reps generalizing index published blobRefs with
  | nil =>
      cases done
      exact List.Forall₂.nil
  | cons rep rest inductionHypothesis =>
      unfold publishOversizedReps at done
      split at done
      · cases done
      · rename_i here
        split at done
        · cases done
        · rename_i later
          cases done
          exact List.Forall₂.cons (publishOversizedRep_identity here)
            (inductionHypothesis later)

theorem publishOversizedInlineBlobRefs_identity
    {snapshot published : SystemClipboardSnapshot}
    (done : publishOversizedInlineBlobRefs gateway blake3 snapshot =
      .ok (published, blobRefs)) :
    published.identityDigests blake3 readFile =
      snapshot.identityDigests blake3 readFile := by
  unfold publishOversizedInlineBlobRefs at done
  split at done
  · cases done
  · rename_i reps refs isPublished
    cases done
    exact SystemClipboardSnapshot.identityDigests_congr rfl rfl
      (publishOversizedReps_identity isPublished)

theorem publishOversizedInlineBlobRefs_ok
    {snapshot published : SystemClipboardSnapshot}
    (done : publishOversizedInlineBlobRefs gateway blake3 snapshot =
      .ok (published, blobRefs)) :
    (∀ blobRef ∈ blobRefs, blobRef.representationIndex.isSome = true) ∧
      ImagesPublishable gateway snapshot := by
  unfold publishOversizedInlineBlobRefs at done
  split at done
  · cases done
  · rename_i reps refs isPublished
    cases done
    obtain ⟨bound, images⟩ := publishOversizedReps_ok isPublished
    refine ⟨bound, ?_⟩
    intro index rep found isImage
    simpa using images index rep found isImage

theorem exists_publishOversizedInlineBlobRefs
    {snapshot : SystemClipboardSnapshot}
    (publishable : ImagesPublishable gateway snapshot) :
    ∃ done, publishOversizedInlineBlobRefs gateway blake3 snapshot =
      .ok done := by
  have fromZero : ∀ (offset : Nat) (rep : ObservedClipboardRepresentation),
      snapshot.representations[offset]? = some rep →
        isOversizedImage rep = true → 0 + offset ≤ u32Max ∧ ∃ result,
          gateway.publishBlob (rep.inlineBytes.getD []) = .ok result := by
    intro offset rep found isImage
    simpa using publishable offset rep found isImage
  obtain ⟨done, isPublished⟩ : ∃ done, publishOversizedReps gateway blake3 0
      snapshot.representations = .ok done :=
    exists_publishOversizedReps fromZero
  unfold publishOversizedInlineBlobRefs
  rw [isPublished]
  exact ⟨_, rfl⟩

end Published

/-! ## The transfer manifest -/

def publishedIndex (files : List FileSyncIntent) (path : PathBuf) :
    Option Nat :=
  (files.zipIdx.filter fun entry => entry.1.path == path).getLast?.map
    Prod.snd

def transferMember (files : List FileSyncIntent)
    (member : DirectoryMemberSource) : Except String InboundFileSetMember :=
  let withIndex (index : Option Nat) : Except String InboundFileSetMember :=
    if member.location.rootIndex < 0 ∨ u32Max < member.location.rootIndex then
      .error "negative directory root index"
    else
      .ok {
        rootIndex := member.location.rootIndex.toNat
        rootName := member.location.rootName
        rootIsFile := member.rootIsFile
        relativePath := member.location.relativePath
        kind := member.location.kind
        blobRefIndex := index }
  match member.path with
  | none => withIndex none
  | some path =>
      match publishedIndex files path with
      | none =>
          .error s!"directory member was not published: {path.display}"
      | some index => withIndex (some index)

def buildTransferManifest (members : List DirectoryMemberSource)
    (files : List FileSyncIntent) : Except String InboundFileSetManifest :=
  if u32Max + 1 < files.length then
    .error "file-set index cannot fit u32"
  else
    (members.mapM (transferMember files)).map InboundFileSetManifest.mk

end OpenClipboard
