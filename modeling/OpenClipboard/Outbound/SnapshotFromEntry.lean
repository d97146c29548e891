import OpenClipboard.Core.Snapshot
import OpenClipboard.Library.PartialMap
import OpenClipboard.Storage.Representations

/-!
# A snapshot from a stored entry

A restore, a resend and a pull rebuild the snapshot from what the selection
names.  The paste representation must be found and resolve; any other one that
does not is left out.
-/

namespace OpenClipboard

open PartialMap

structure ClipboardSelection where
  primaryRepId : String
  previewRepId : String
  pasteRepId : String
  secondaryRepIds : List String
  deriving DecidableEq, Repr

structure ClipboardEntry where
  entryId : String
  eventId : String
  createdAtMs : Int
  deriving DecidableEq, Repr

/-! ## Resolving a payload -/

inductive ResolvedClipboardPayload where
  | inline (bytes : List UInt8)
  | blobRef (blobId : String)
  deriving DecidableEq, Repr

inductive PayloadResolveError where
  | integrity (repId reason : String)
  | orphaned (repId : String) (state : PayloadAvailability)
  | lost (repId reason : String)
  deriving DecidableEq, Repr

/-- `ClipboardPayloadResolver::resolve`. -/
def resolvePayload (cache : String → Option (List UInt8))
    (spool : String → Except String (Option (List UInt8)))
    (rep : PersistedClipboardRepresentation) :
    Except PayloadResolveError ResolvedClipboardPayload :=
  let fromCacheOrSpool : Except PayloadResolveError ResolvedClipboardPayload :=
    match cache rep.id with
    | some bytes => .ok (.inline bytes)
    | none =>
        match spool rep.id with
        | .ok (some bytes) => .ok (.inline bytes)
        | .ok none => .error (.orphaned rep.id rep.payloadState)
        | .error err => .error (.integrity rep.id s!"spool read failed: {err}")
  match rep.payloadState with
  | .inline =>
      match rep.inlineData with
      | some bytes => .ok (.inline bytes)
      | none =>
          .error (.integrity rep.id
            "payload_state Inline but inline_data is None")
  | .blobReady =>
      match rep.blobId with
      | some blobId => .ok (.blobRef blobId)
      | none =>
          .error (.integrity rep.id
            "payload_state BlobReady but blob_id is None")
  | .staged => fromCacheOrSpool
  | .processing => fromCacheOrSpool
  | .failed _ => fromCacheOrSpool
  | .lost => .error (.lost rep.id (rep.lastError.getD "payload marked as lost"))

/-! ## Reconstruction -/

/-- The ports that the reconstruction reads from. -/
structure SnapshotSources where
  getEntry : String → Except String (Option ClipboardEntry)
  getSelection : String → Except String (Option ClipboardSelection)
  getRepresentation :
    RepKey → Except String (Option PersistedClipboardRepresentation)
  resolve : PersistedClipboardRepresentation →
    Except PayloadResolveError ResolvedClipboardPayload
  getBlob : String → Except String (List UInt8)

inductive BuildSnapshotError where
  | entryNotFound (entryId : String)
  | selectionNotFound (entryId : String)
  | pasteRepNotFound (eventId repId : String)
  | pasteRepUnavailable (err : PayloadResolveError)
  | pasteRepBlobFetchFailed (blobId reason : String)
  | noRestorableRepresentations (entryId : String)
  | repository (err : String)
  deriving DecidableEq, Repr

/-- The paste representation first, each identifier once. -/
def candidateIds (selection : ClipboardSelection) : List String :=
  (selection.pasteRepId :: selection.primaryRepId :: selection.previewRepId ::
    selection.secondaryRepIds).eraseDups

/-- What a port answers, or the error for a repository. -/
def orRepository {α : Type} : Except String α → Except BuildSnapshotError α :=
  Except.mapError .repository

def orAbsent {α : Type} (absent : BuildSnapshotError) :
    Option α → Except BuildSnapshotError α
  | some value => .ok value
  | none => .error absent

section Reconstruct

variable (sources : SnapshotSources)

def loadCandidates (eventId pasteRepId : String) :
    List String → Except BuildSnapshotError
      (List PersistedClipboardRepresentation)
  | [] => .ok []
  | repId :: rest =>
      match sources.getRepresentation ⟨eventId, repId⟩ with
      | .error err => .error (.repository err)
      | .ok (some rep) =>
          (loadCandidates eventId pasteRepId rest).map (rep :: ·)
      | .ok none =>
          if repId = pasteRepId then
            .error (.pasteRepNotFound eventId repId)
          else
            loadCandidates eventId pasteRepId rest

/-- A fresh representation with the bytes read. -/
def observe (rep : PersistedClipboardRepresentation) (bytes : List UInt8) :
    ObservedClipboardRepresentation where
  id := rep.id
  formatId := rep.formatId
  mime := rep.mimeType
  source := .inline bytes

/-- Read the bytes of a candidate; `none` leaves it out. -/
def packRepresentation (pasteRepId : String)
    (rep : PersistedClipboardRepresentation) :
    Except BuildSnapshotError (Option ObservedClipboardRepresentation) :=
  match sources.resolve rep with
  | .ok (.inline bytes) => .ok (some (observe rep bytes))
  | .ok (.blobRef blobId) =>
      match sources.getBlob blobId with
      | .ok bytes => .ok (some (observe rep bytes))
      | .error err =>
          if rep.id = pasteRepId then
            .error (.pasteRepBlobFetchFailed blobId err)
          else
            .ok none
  | .error err =>
      if rep.id = pasteRepId then
        .error (.pasteRepUnavailable err)
      else
        .ok none

def packCandidates (pasteRepId : String) :
    List PersistedClipboardRepresentation →
      Except BuildSnapshotError (List ObservedClipboardRepresentation)
  | [] => .ok []
  | rep :: rest =>
      (packRepresentation sources pasteRepId rep).bind fun packed =>
        (packCandidates pasteRepId rest).map (packed.toList ++ ·)

/-- The paste representation is among the candidates, and something could be
packed. -/
def requirePaste (eventId pasteRepId : String)
    (candidates : List PersistedClipboardRepresentation) :
    Except BuildSnapshotError Unit :=
  if candidates.any fun rep => rep.id == pasteRepId then
    .ok ()
  else
    .error (.pasteRepNotFound eventId pasteRepId)

def requireSome (entryId : String)
    (reps : List ObservedClipboardRepresentation) :
    Except BuildSnapshotError Unit :=
  if reps.isEmpty then
    .error (.noRestorableRepresentations entryId)
  else
    .ok ()

def reconstructSnapshotFromEntry (entryId : String) :
    Except BuildSnapshotError SystemClipboardSnapshot :=
  (orRepository (sources.getEntry entryId)).bind fun foundEntry =>
  (orAbsent (.entryNotFound entryId) foundEntry).bind fun entry =>
  (orRepository (sources.getSelection entryId)).bind fun foundSelection =>
  (orAbsent (.selectionNotFound entryId) foundSelection).bind fun selection =>
  (loadCandidates sources entry.eventId selection.pasteRepId
    (candidateIds selection)).bind fun candidates =>
  (requirePaste entry.eventId selection.pasteRepId candidates).bind fun _ =>
  (packCandidates sources selection.pasteRepId candidates).bind fun reps =>
  (requireSome entryId reps).map fun _ => {
    tsMs := entry.createdAtMs
    representations := reps }

/-! ## What is still there -/

def storedBytes (rep : PersistedClipboardRepresentation) :
    Option (List UInt8) :=
  match sources.resolve rep with
  | .ok (.inline bytes) => some bytes
  | .ok (.blobRef blobId) => (sources.getBlob blobId).toOption
  | .error _ => none

def namedRows (eventId : String) (selection : ClipboardSelection) :
    List PersistedClipboardRepresentation :=
  (candidateIds selection).filterMap fun repId =>
    (sources.getRepresentation ⟨eventId, repId⟩).toOption.bind id

/-- The representations that the selection names and that still resolve. -/
def heldRepresentations (eventId : String) (selection : ClipboardSelection) :
    List ObservedClipboardRepresentation :=
  (candidateIds selection).filterMap fun repId =>
    (sources.getRepresentation ⟨eventId, repId⟩).toOption.bind fun found =>
      found.bind fun rep => (storedBytes sources rep).map (observe rep)

/-- Every named row can be looked up, and the paste representation is there
and resolves. -/
structure Restorable (eventId : String) (selection : ClipboardSelection) :
    Prop where
  readable : ∀ repId ∈ candidateIds selection, ∃ found,
    sources.getRepresentation ⟨eventId, repId⟩ = .ok found ∧
      (repId = selection.pasteRepId → found.isSome = true)
  pasteNamed : ∃ rep ∈ namedRows sources eventId selection,
    rep.id = selection.pasteRepId
  pasteResolves : ∀ rep ∈ namedRows sources eventId selection,
    rep.id = selection.pasteRepId → (storedBytes sources rep).isSome = true

variable {sources}

theorem loadCandidates_eq_ok_iff {eventId pasteRepId : String}
    {repIds : List String}
    {candidates : List PersistedClipboardRepresentation} :
    loadCandidates sources eventId pasteRepId repIds = .ok candidates ↔
      (∀ repId ∈ repIds, ∃ found,
        sources.getRepresentation ⟨eventId, repId⟩ = .ok found ∧
          (repId = pasteRepId → found.isSome = true)) ∧
        candidates = repIds.filterMap fun repId =>
          (sources.getRepresentation ⟨eventId, repId⟩).toOption.bind id := by
  induction repIds generalizing candidates with
  | nil =>
      rw [loadCandidates, Except.ok.injEq, eq_comm]
      simp
  | cons repId rest inductionHypothesis =>
      unfold loadCandidates
      rw [List.forall_mem_cons, List.filterMap_cons]
      cases loaded : sources.getRepresentation ⟨eventId, repId⟩ with
      | error err => simp
      | ok found =>
          cases found with
          | some rep =>
              simp only [map_eq_ok_iff, inductionHypothesis]
              constructor
              · rintro ⟨later, ⟨readable, rfl⟩, rfl⟩
                exact ⟨⟨⟨some rep, rfl, fun _ => rfl⟩, readable⟩, rfl⟩
              · rintro ⟨⟨_, readable⟩, rfl⟩
                exact ⟨_, ⟨readable, rfl⟩, rfl⟩
          | none =>
              by_cases isPaste : repId = pasteRepId
              · simp [isPaste]
              · simp only [if_neg isPaste, inductionHypothesis]
                simp [Except.toOption, isPaste]

theorem packRepresentation_eq_ok_iff {pasteRepId : String}
    {rep : PersistedClipboardRepresentation}
    {packed : Option ObservedClipboardRepresentation} :
    packRepresentation sources pasteRepId rep = .ok packed ↔
      (rep.id = pasteRepId → (storedBytes sources rep).isSome = true) ∧
        packed = (storedBytes sources rep).map (observe rep) := by
  unfold packRepresentation storedBytes
  by_cases isPaste : rep.id = pasteRepId
  · cases resolved : sources.resolve rep with
    | error err => simp [isPaste]
    | ok payload =>
        cases payload with
        | inline bytes => simp [eq_comm]
        | blobRef blobId =>
            cases fetched : sources.getBlob blobId <;>
              simp [isPaste, fetched, Except.toOption, eq_comm]
  · cases resolved : sources.resolve rep with
    | error err => simp [isPaste, eq_comm]
    | ok payload =>
        cases payload with
        | inline bytes => simp [eq_comm]
        | blobRef blobId =>
            cases fetched : sources.getBlob blobId <;>
              simp [isPaste, fetched, Except.toOption, eq_comm]

theorem packCandidates_eq_ok_iff {pasteRepId : String}
    {candidates : List PersistedClipboardRepresentation}
    {reps : List ObservedClipboardRepresentation} :
    packCandidates sources pasteRepId candidates = .ok reps ↔
      (∀ rep ∈ candidates, rep.id = pasteRepId →
        (storedBytes sources rep).isSome = true) ∧
        reps = candidates.filterMap fun rep =>
          (storedBytes sources rep).map (observe rep) := by
  induction candidates generalizing reps with
  | nil =>
      rw [packCandidates, Except.ok.injEq, eq_comm]
      simp
  | cons rep rest inductionHypothesis =>
      unfold packCandidates
      simp only [bind_eq_ok_iff, map_eq_ok_iff, packRepresentation_eq_ok_iff,
        inductionHypothesis, List.forall_mem_cons, List.filterMap_cons]
      constructor
      · rintro ⟨here, ⟨resolves, rfl⟩, later, ⟨restResolves, rfl⟩, rfl⟩
        refine ⟨⟨resolves, restResolves⟩, ?_⟩
        cases storedBytes sources rep <;> rfl
      · rintro ⟨⟨resolves, restResolves⟩, rfl⟩
        refine ⟨_, ⟨resolves, rfl⟩, _, ⟨restResolves, rfl⟩, ?_⟩
        cases storedBytes sources rep <;> rfl

@[simp]
theorem orRepository_eq_ok_iff {α : Type} {step : Except String α}
    {value : α} :
    orRepository step = .ok value ↔ step = .ok value := by
  cases step <;> simp [orRepository, Except.mapError]

@[simp]
theorem orAbsent_eq_ok_iff {α : Type} {absent : BuildSnapshotError}
    {found : Option α} {value : α} :
    orAbsent absent found = .ok value ↔ found = some value := by
  cases found <;> simp [orAbsent]

theorem heldRepresentations_eq (eventId : String)
    (selection : ClipboardSelection) :
    heldRepresentations sources eventId selection =
      (namedRows sources eventId selection).filterMap fun rep =>
        (storedBytes sources rep).map (observe rep) := by
  unfold heldRepresentations namedRows
  rw [List.filterMap_filterMap]
  congr 1
  funext repId
  rw [Option.bind_assoc]
  rfl

theorem reconstructSnapshotFromEntry_eq_ok_iff {entryId : String}
    {snapshot : SystemClipboardSnapshot} :
    reconstructSnapshotFromEntry sources entryId = .ok snapshot ↔
      ∃ entry selection,
        sources.getEntry entryId = .ok (some entry) ∧
        sources.getSelection entryId = .ok (some selection) ∧
        Restorable sources entry.eventId selection ∧
        snapshot = {
          tsMs := entry.createdAtMs
          representations :=
            heldRepresentations sources entry.eventId selection } := by
  simp only [reconstructSnapshotFromEntry, bind_eq_ok_iff, map_eq_ok_iff,
    orRepository_eq_ok_iff, orAbsent_eq_ok_iff, loadCandidates_eq_ok_iff,
    packCandidates_eq_ok_iff]
  constructor
  · rintro ⟨foundEntry, isEntry, entry, rfl, foundSelection, isSelection,
      selection, rfl, candidates, ⟨readable, rfl⟩, _, pasteFound, reps,
      ⟨resolves, rfl⟩, _, _, rfl⟩
    refine ⟨entry, selection, isEntry, isSelection, ⟨readable, ?_, resolves⟩,
      ?_⟩
    · unfold requirePaste at pasteFound
      split at pasteFound
      · rename_i named
        obtain ⟨rep, member, isPaste⟩ := List.any_eq_true.mp named
        exact ⟨rep, member, beq_iff_eq.mp isPaste⟩
      · cases pasteFound
    · rw [heldRepresentations_eq]
      rfl
  · rintro ⟨entry, selection, isEntry, isSelection, restorable, rfl⟩
    obtain ⟨rep, member, isPaste⟩ := restorable.pasteNamed
    have named : (namedRows sources entry.eventId selection).any
        (fun rep => rep.id == selection.pasteRepId) = true :=
      List.any_eq_true.mpr ⟨rep, member, beq_iff_eq.mpr isPaste⟩
    obtain ⟨bytes, resolved⟩ := Option.isSome_iff_exists.mp
      (restorable.pasteResolves rep member isPaste)
    have packed : ((namedRows sources entry.eventId selection).filterMap
        fun rep => (storedBytes sources rep).map (observe rep)).isEmpty =
          false := by
      rw [List.isEmpty_eq_false_iff]
      apply List.ne_nil_of_mem (a := observe rep bytes)
      exact List.mem_filterMap.mpr ⟨rep, member, by rw [resolved]; rfl⟩
    refine ⟨_, isEntry, entry, rfl, _, isSelection, selection, rfl,
      _, ⟨restorable.readable, rfl⟩, (), if_pos named, _,
      ⟨restorable.pasteResolves, rfl⟩, (), ?_, ?_⟩
    · unfold requireSome
      unfold namedRows at packed
      rw [packed]
      rfl
    · rw [heldRepresentations_eq]
      rfl

theorem reconstructSnapshotFromEntry_ok {entryId : String}
    {snapshot : SystemClipboardSnapshot}
    (rebuilt : reconstructSnapshotFromEntry sources entryId = .ok snapshot) :
    ∃ entry selection,
      sources.getEntry entryId = .ok (some entry) ∧
      sources.getSelection entryId = .ok (some selection) ∧
      snapshot = {
        tsMs := entry.createdAtMs
        representations :=
          heldRepresentations sources entry.eventId selection } := by
  obtain ⟨entry, selection, isEntry, isSelection, _, isSnapshot⟩ :=
    reconstructSnapshotFromEntry_eq_ok_iff.mp rebuilt
  exact ⟨entry, selection, isEntry, isSelection, isSnapshot⟩

end Reconstruct

end OpenClipboard
