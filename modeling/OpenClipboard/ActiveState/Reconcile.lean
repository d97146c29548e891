import OpenClipboard.ActiveState.Register
import OpenClipboard.Outbound.RootMarks
import OpenClipboard.Outbound.SnapshotFromEntry
import Mathlib.Data.Set.Function

/-!
# The register at startup

The stored register is compared with the clipboard before it counts: the entry
that it names is rebuilt as for a restore, the clipboard is read, and the row
is kept only if both have one hash.
-/

namespace OpenClipboard

open PartialMap

/-! ## A platform read -/

structure PlatformRepresentation where
  id : String
  formatId : FormatId
  mime : Option MimeType
  source : ClipboardPayloadSource
  deriving DecidableEq, Repr

namespace PlatformRepresentation

def observed (rep : PlatformRepresentation) :
    ObservedClipboardRepresentation where
  id := rep.id
  formatId := rep.formatId
  mime := rep.mime
  source := rep.source

/-- The bytes behind a representation. -/
def content (readFile : PathBuf → Option (List UInt8))
    (rep : PlatformRepresentation) : Option (List UInt8) :=
  match rep.source with
  | .inline bytes => some bytes
  | .localFile path _ => readFile path

end PlatformRepresentation

/-- `read_snapshot`: a read knows no file digests. -/
def platformSnapshot (tsMs : Int) (reps : List PlatformRepresentation) :
    SystemClipboardSnapshot where
  tsMs := tsMs
  representations := reps.map PlatformRepresentation.observed

/-- What a clipboard holds, where its files can be read. -/
def contents (readFile : PathBuf → Option (List UInt8))
    (reps : List PlatformRepresentation) : Option (List (List UInt8)) :=
  reps.mapM (PlatformRepresentation.content readFile)

/-! ## Reconciling -/

inductive ReconcileOutcome where
  | alreadyEmpty
  | kept
  | cleared
  deriving DecidableEq, Repr

/-- What the ports answer to one pass, with the errors of the load and of the
reset. -/
structure ReconcilePorts where
  loadFails : Option ActiveClipboardRegisterError
  resetFails : Option ActiveClipboardRegisterError
  sources : SnapshotSources
  readFile : PathBuf → Option (List UInt8)

section Reconcile

variable (blake3 : Blake3) (ports : ReconcilePorts)

/-- `clear`: a reset that fails is logged. -/
def clear (register : Option RegisterRow) : Option RegisterRow :=
  match ports.resetFails with
  | some _ => register
  | none => resetRegister register

/-- `run` against a read of the clipboard; `none` is a panic of the hash, which
cannot read a file. -/
def reconcile (os : Except String SystemClipboardSnapshot)
    (register : Option RegisterRow) :
    Option (ReconcileOutcome × Option RegisterRow) :=
  let cleared := (ReconcileOutcome.cleared, clear ports register)
  match ports.loadFails, register with
  | some _, _ => some cleared
  | none, none => some (.alreadyEmpty, none)
  | none, some row =>
      match reconstructSnapshotFromEntry ports.sources
          row.load.entryId.asStr with
      | .error _ => some cleared
      | .ok rebuilt =>
          (rebuilt.snapshotHash blake3 ports.readFile).bind fun rebuiltHash =>
            match os with
            | .error _ => some cleared
            | .ok snapshot =>
                (snapshot.snapshotHash blake3 ports.readFile).map fun osHash =>
                  if ContentHash.formatBlake3v1 rebuiltHash =
                      ContentHash.formatBlake3v1 osHash then
                    (.kept, register)
                  else
                    cleared

end Reconcile

/-! ## Materialising a staged image -/

def shouldConvertToPng (mime : Option MimeType) : Bool :=
  mime.any fun mime => Text.startsWith mime.asStr "image/" &&
    mime.asStr != "image/png" && mime.asStr != "image/webp"

/-- The bytes that `process_once` writes to the blob store, and the type that
the row has then. -/
def materializedContent
    (convertImageToPng : List UInt8 → Option (List UInt8))
    (mime : Option MimeType) (rawBytes : List UInt8) :
    List UInt8 × Option MimeType :=
  if shouldConvertToPng mime then
    match convertImageToPng rawBytes with
    | some pngBytes => (pngBytes, some ⟨"image/png"⟩)
    | none => (rawBytes, mime)
  else
    (rawBytes, mime)

/-! ## What the pass is for -/

def identityInput (blake3 : Blake3) (held : List (List UInt8)) :
    List UInt8 :=
  ContentHash.aggregateInput ContentHash.snapshotHashPrefix
    (held.map (ContentHash.contentHash blake3))

def hashedInputs (blake3 : Blake3) (left right : List (List UInt8)) :
    List (List UInt8) :=
  left ++ right ++ [identityInput blake3 left, identityInput blake3 right]

/-- No two of these inputs collide. -/
def CollisionFree (blake3 : Blake3) (left right : List (List UInt8)) : Prop :=
  ∀ first ∈ hashedInputs blake3 left right,
    ∀ second ∈ hashedInputs blake3 left right,
      blake3 first = blake3 second → first = second

instance decidableCollisionFree (blake3 : Blake3)
    (left right : List (List UInt8)) :
    Decidable (CollisionFree blake3 left right) :=
  inferInstanceAs (Decidable (∀ first ∈ hashedInputs blake3 left right,
    ∀ second ∈ hashedInputs blake3 left right,
      blake3 first = blake3 second → first = second))

/-- The bytes that the representations of a rebuilt snapshot hold. -/
def rebuiltContents (snapshot : SystemClipboardSnapshot) :
    List (List UInt8) :=
  snapshot.representations.filterMap fun rep => rep.inlineBytes

/-- The row stays exactly while the clipboard holds what was captured for its
entry, and is cleared for anything else. -/
def ReconcilesExactly (blake3 : Blake3) (ports : ReconcilePorts)
    (row : RegisterRow) (captured : List (List UInt8)) : Prop :=
  ∀ tsMs os held, contents ports.readFile os = some held →
    (∀ rebuilt, reconstructSnapshotFromEntry ports.sources
        row.load.entryId.asStr = .ok rebuilt →
      CollisionFree blake3 (rebuiltContents rebuilt) held) →
    (held.Perm captured →
        reconcile blake3 ports (.ok (platformSnapshot tsMs os)) (some row) =
          some (.kept, some row)) ∧
      (¬ held.Perm captured →
        reconcile blake3 ports (.ok (platformSnapshot tsMs os)) (some row) =
          some (.cleared, clear ports (some row)))

/-! ## What is stored of the entry -/

section Stored

variable (sources : SnapshotSources)

/-- The entry can be restored, and the named rows resolve to the captured
bytes: none is missing, and none is changed. -/
def StillStored (entryId : String) (captured : List (List UInt8)) : Prop :=
  ∃ entry selection,
    sources.getEntry entryId = .ok (some entry) ∧
    sources.getSelection entryId = .ok (some selection) ∧
    Restorable sources entry.eventId selection ∧
    ((namedRows sources entry.eventId selection).filterMap
      (storedBytes sources)).Perm captured

end Stored

/-! ## Equal hashes -/

theorem perm_of_map_perm {α β : Type} {f : α → β} {left right : List α}
    (injective : Set.InjOn f fun value => value ∈ left ∨ value ∈ right)
    (permuted : (left.map f).Perm (right.map f)) : left.Perm right := by
  classical
  by_cases empty : left = []
  · subst empty
    rw [List.map_nil] at permuted
    rw [List.map_eq_nil_iff.mp permuted.nil_eq.symm]
  · obtain ⟨first, _⟩ := List.exists_mem_of_ne_nil left empty
    have inhabited : Nonempty α := ⟨first⟩
    let back := Function.invFunOn f
      (fun value => value ∈ left ∨ value ∈ right)
    have restores : ∀ value, value ∈ left ∨ value ∈ right →
        back (f value) = value :=
      fun value member => injective.leftInvOn_invFunOn member
    have backLeft : (left.map f).map back = left := by
      rw [List.map_map]
      have restored := List.map_congr_left fun value member =>
        restores value (.inl member)
      exact restored.trans (List.map_id _)
    have backRight : (right.map f).map back = right := by
      rw [List.map_map]
      have restored := List.map_congr_left fun value member =>
        restores value (.inr member)
      exact restored.trans (List.map_id _)
    have permutedBack := permuted.map back
    rwa [backLeft, backRight] at permutedBack

variable {blake3 : Blake3} {readFile : PathBuf → Option (List UInt8)}

theorem snapshotHash_eq_iff {left right : List (List UInt8)}
    (collisionFree : CollisionFree blake3 left right) :
    ContentHash.snapshotHash blake3
        (left.map (ContentHash.contentHash blake3)) =
      ContentHash.snapshotHash blake3
        (right.map (ContentHash.contentHash blake3)) ↔ left.Perm right := by
  have hashed : ∀ bytes, bytes ∈ left ∨ bytes ∈ right →
      bytes ∈ hashedInputs blake3 left right := by
    intro bytes member
    exact List.mem_append_left _ (List.mem_append.mpr member)
  have aggregated : ∀ input, input = identityInput blake3 left ∨
      input = identityInput blake3 right →
      input ∈ hashedInputs blake3 left right := by
    intro input isInput
    apply List.mem_append_right
    rcases isInput with rfl | rfl
    · exact List.mem_cons_self
    · exact List.mem_cons_of_mem _ List.mem_cons_self
  unfold ContentHash.snapshotHash
  rw [ContentHash.aggregate_eq_iff blake3]
  · constructor
    · apply perm_of_map_perm
      intro first isFirst second isSecond
      exact collisionFree first (hashed first isFirst) second
        (hashed second isSecond)
    · exact fun permuted => permuted.map _
  · intro first isFirst second isSecond
    exact collisionFree first (aggregated first isFirst) second
      (aggregated second isSecond)

variable {held : List (List UInt8)} {tsMs : Int}

theorem snapshotHash_of_contents {reps : List ObservedClipboardRepresentation}
    (each : List.Forall₂
      (fun (rep : ObservedClipboardRepresentation) bytes =>
        rep.contentHash blake3 readFile =
          some (ContentHash.contentHash blake3 bytes)) reps held) :
    SystemClipboardSnapshot.snapshotHash blake3 readFile
        { tsMs := tsMs, representations := reps } =
      some (ContentHash.snapshotHash blake3
        (held.map (ContentHash.contentHash blake3))) := by
  have all : SystemClipboardSnapshot.hashedRepresentations
      { tsMs := tsMs, representations := reps } = reps := by
    apply List.filter_eq_self.mpr
    intro rep _
    rfl
  have hashes : reps.mapM (fun (rep : ObservedClipboardRepresentation) =>
      rep.contentHash blake3 readFile) =
        some (held.map (ContentHash.contentHash blake3)) := by
    rw [mapM_eq_some_iff, List.forall₂_map_right_iff]
    exact each
  unfold SystemClipboardSnapshot.snapshotHash
  rw [all, hashes, Option.map_some]
  simp [SystemClipboardSnapshot.fileComponent]

theorem snapshotHash_platformSnapshot {os : List PlatformRepresentation}
    (isHeld : contents readFile os = some held) :
    (platformSnapshot tsMs os).snapshotHash blake3 readFile =
      some (ContentHash.snapshotHash blake3
        (held.map (ContentHash.contentHash blake3))) := by
  apply snapshotHash_of_contents
  rw [List.forall₂_map_left_iff]
  apply (mapM_eq_some_iff.mp isHeld).imp
  intro rep bytes isBytes
  unfold PlatformRepresentation.content at isBytes
  unfold ObservedClipboardRepresentation.contentHash
    PlatformRepresentation.observed
  cases source : rep.source with
  | «inline» content =>
      rw [source] at isBytes
      cases isBytes
      rfl
  | localFile path sizeBytes =>
      rw [source] at isBytes
      simp [isBytes]

theorem snapshotHash_rebuilt {rows : List PersistedClipboardRepresentation}
    {sources : SnapshotSources} :
    SystemClipboardSnapshot.snapshotHash blake3 readFile {
        tsMs := tsMs
        representations := rows.filterMap fun rep =>
          (storedBytes sources rep).map (observe rep) } =
      some (ContentHash.snapshotHash blake3
        ((rows.filterMap (storedBytes sources)).map
          (ContentHash.contentHash blake3))) := by
  apply snapshotHash_of_contents
  induction rows with
  | nil => exact .nil
  | cons rep rest inductionHypothesis =>
      rw [List.filterMap_cons, List.filterMap_cons]
      cases storedBytes sources rep with
      | none => exact inductionHypothesis
      | some bytes => exact .cons rfl inductionHypothesis

theorem rebuiltContents_eq {rows : List PersistedClipboardRepresentation}
    {sources : SnapshotSources} :
    rebuiltContents {
        tsMs := tsMs
        representations := rows.filterMap fun rep =>
          (storedBytes sources rep).map (observe rep) } =
      rows.filterMap (storedBytes sources) := by
  unfold rebuiltContents
  rw [List.filterMap_filterMap]
  congr 1
  funext rep
  cases storedBytes sources rep <;> rfl

/-! ## When the pass is exact -/

theorem reconcile_rebuilt {ports : ReconcilePorts} {row : RegisterRow}
    {rebuilt : SystemClipboardSnapshot} (tsMs : Int)
    {os : List PlatformRepresentation} (loads : ports.loadFails = none)
    (isRebuilt : reconstructSnapshotFromEntry ports.sources
      row.load.entryId.asStr = .ok rebuilt)
    (isHeld : contents ports.readFile os = some held)
    (collisionFree : CollisionFree blake3 (rebuiltContents rebuilt) held) :
    reconcile blake3 ports (.ok (platformSnapshot tsMs os)) (some row) =
      some (open Classical in
        if (rebuiltContents rebuilt).Perm held then (.kept, some row)
        else (.cleared, clear ports (some row))) := by
  obtain ⟨entry, selection, _, _, _, isSnapshot⟩ :=
    reconstructSnapshotFromEntry_eq_ok_iff.mp isRebuilt
  rw [heldRepresentations_eq] at isSnapshot
  have rebuiltHash : rebuilt.snapshotHash blake3 ports.readFile =
      some (ContentHash.snapshotHash blake3
        ((rebuiltContents rebuilt).map
          (ContentHash.contentHash blake3))) := by
    rw [isSnapshot, snapshotHash_rebuilt, rebuiltContents_eq]
  have sameHash := snapshotHash_eq_iff collisionFree
  unfold reconcile
  simp only [loads, isRebuilt, rebuiltHash, Option.bind_some,
    snapshotHash_platformSnapshot isHeld, Option.map_some,
    ContentHash.formatBlake3v1_injective.eq_iff, sameHash]

def inlineRepresentations (held : List (List UInt8)) :
    List PlatformRepresentation :=
  held.map fun bytes => ⟨"", ⟨""⟩, none, .inline bytes⟩

theorem contents_inlineRepresentations (held : List (List UInt8)) :
    contents readFile (inlineRepresentations held) = some held := by
  apply mapM_eq_some_iff.mpr
  rw [inlineRepresentations, List.forall₂_map_left_iff]
  exact List.forall₂_same.mpr fun _ _ => rfl

/-- The pass is exact if and only if the register loads, and what is stored of
the entry still resolves to the captured bytes. -/
theorem reconcilesExactly_iff {ports : ReconcilePorts} {row : RegisterRow}
    {captured : List (List UInt8)}
    (collisionFree : ∀ rebuilt, reconstructSnapshotFromEntry ports.sources
        row.load.entryId.asStr = .ok rebuilt →
      CollisionFree blake3 (rebuiltContents rebuilt) captured) :
    ReconcilesExactly blake3 ports row captured ↔
      ports.loadFails = none ∧
        StillStored ports.sources row.load.entryId.asStr captured := by
  constructor
  · intro exact
    have kept := (exact 0 (inlineRepresentations captured) captured
      (contents_inlineRepresentations captured) collisionFree).1
      (List.Perm.refl captured)
    cases loads : ports.loadFails with
    | some err =>
        simp only [reconcile, loads] at kept
        cases kept
    | none =>
        refine ⟨rfl, ?_⟩
        cases isRebuilt : reconstructSnapshotFromEntry ports.sources
            row.load.entryId.asStr with
        | error err =>
            simp only [reconcile, loads, isRebuilt] at kept
            cases kept
        | ok rebuilt =>
            rw [reconcile_rebuilt _ loads isRebuilt
              (contents_inlineRepresentations captured)
              (collisionFree rebuilt isRebuilt)] at kept
            have same : (rebuiltContents rebuilt).Perm captured := by
              by_contra different
              rw [if_neg different] at kept
              cases kept
            obtain ⟨entry, selection, isEntry, isSelection, restorable,
              isSnapshot⟩ :=
              reconstructSnapshotFromEntry_eq_ok_iff.mp isRebuilt
            rw [heldRepresentations_eq] at isSnapshot
            rw [isSnapshot, rebuiltContents_eq] at same
            exact ⟨entry, selection, isEntry, isSelection, restorable, same⟩
  · rintro ⟨loads, entry, selection, isEntry, isSelection, restorable,
      stored⟩ tsMs os held isHeld free
    have isRebuilt := reconstructSnapshotFromEntry_eq_ok_iff.mpr
      ⟨entry, selection, isEntry, isSelection, restorable, rfl⟩
    have pass := reconcile_rebuilt tsMs loads isRebuilt isHeld
      (free _ isRebuilt)
    rw [heldRepresentations_eq, rebuiltContents_eq] at pass
    constructor
    · intro same
      rw [pass, if_pos (stored.trans same.symm)]
    · intro different
      rw [pass, if_neg fun same => different (same.symm.trans stored)]

namespace ReconcileSample

theorem laptop_bounded : "laptop".utf8ByteSize ≤ deviceIdMaxBytes := by
  decide

/-- The register names the entry. -/
def row : RegisterRow where
  snapshotHash := "blake3v1:00"
  entryId := ⟨"entry-1"⟩
  activatedAtMs := 5
  activatedBy := ⟨"laptop", laptop_bounded⟩
  consumableRefCiphertext := none

/-- An entry of one representation, with its row and the blob store. -/
def portsWith (rep : PersistedClipboardRepresentation)
    (getBlob : String → Except String (List UInt8)) : ReconcilePorts where
  loadFails := none
  resetFails := none
  sources := {
    getEntry := fun _ => .ok (some ⟨"entry-1", "event-1", 1⟩)
    getSelection := fun _ => .ok (some ⟨"rep-1", "rep-1", "rep-1", []⟩)
    getRepresentation := fun _ => .ok (some rep)
    resolve := resolvePayload (fun _ => none) fun _ => .ok none
    getBlob := getBlob }
  readFile := fun _ => none

def textPorts : ReconcilePorts :=
  portsWith {
    id := "rep-1"
    formatId := ⟨"text"⟩
    mimeType := some ⟨"text/plain"⟩
    sizeBytes := 2
    inlineData := some [104, 105]
    blobId := none
    payloadState := .inline
    lastError := none } fun _ => .error "no blob"

/-- The pass is exact for the text. -/
theorem textReconcilesExactly :
    ReconcilesExactly positionalDigest textPorts row [[104, 105]] := by
  apply (reconcilesExactly_iff _).mpr
  · refine ⟨rfl, ⟨"entry-1", "event-1", 1⟩,
      ⟨"rep-1", "rep-1", "rep-1", []⟩, rfl, rfl, ?_, ?_⟩
    · refine ⟨fun _ _ => ⟨_, rfl, fun _ => rfl⟩, ?_, ?_⟩
      · decide +kernel
      · decide +kernel
    · decide +kernel
  · intro rebuilt isRebuilt
    have bytes : (reconstructSnapshotFromEntry textPorts.sources
        row.load.entryId.asStr).toOption.map rebuiltContents =
          some [[104, 105]] := by
      decide +kernel
    rw [isRebuilt] at bytes
    rw [Option.some.inj bytes]
    decide +kernel

/-- What the worker makes of an image: its bytes as PNG. -/
def convertToPng (_ : List UInt8) : Option (List UInt8) :=
  some [137, 80]

def tiff : MimeType := ⟨"image/tiff"⟩

def imagePorts : ReconcilePorts :=
  let stored := materializedContent convertToPng (some tiff) [77, 77]
  portsWith {
    id := "rep-1"
    formatId := ⟨"image"⟩
    mimeType := stored.2
    sizeBytes := 2
    inlineData := none
    blobId := some "blob-1"
    payloadState := .blobReady
    lastError := none } fun _ => .ok stored.1

/-- The register is cleared although the clipboard holds the captured image. -/
theorem convertedImage_isCleared :
    ¬ ReconcilesExactly positionalDigest imagePorts row [[77, 77]] := by
  intro exact
  have kept := (exact 0 (inlineRepresentations [[77, 77]]) [[77, 77]]
    (contents_inlineRepresentations _) (by
      intro rebuilt isRebuilt
      have bytes : (reconstructSnapshotFromEntry imagePorts.sources
          row.load.entryId.asStr).toOption.map rebuiltContents =
            some [[137, 80]] := by
        decide +kernel
      rw [isRebuilt] at bytes
      rw [Option.some.inj bytes]
      decide +kernel)).1 (List.Perm.refl _)
  have cleared : (reconcile positionalDigest imagePorts (.ok (platformSnapshot
      0 (inlineRepresentations [[77, 77]]))) (some row)).map Prod.fst =
        some .cleared := by
    decide +kernel
  rw [kept] at cleared
  cases cleared

end ReconcileSample

end OpenClipboard
