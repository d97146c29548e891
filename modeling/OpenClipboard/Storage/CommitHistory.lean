import OpenClipboard.Library.Transition
import OpenClipboard.Storage.Encryption

/-!
# Histories of the representation store

Captures, in-place upgrades, background processing and deletions under one
unlocked session.  Beside the tables stands what was captured, to compare the
decrypting repository's reads with.
-/

namespace OpenClipboard

open PartialMap RepresentationTable Transition

/-- The updates that the blob worker, the janitor, the reconciler and the
snapshot reconstruction make. -/
inductive ProcessingUpdate where
  | startProcessing
  | returnToStaged (lastError : String)
  | blobReady (blobId : String)
  | markFailed (lastError : String)
  | markLost (lastError : String)
  | demoteOrphaned (lastError : String)
  deriving DecidableEq, Repr

namespace ProcessingUpdate

def expectedStates : ProcessingUpdate → List PayloadAvailability
  | .startProcessing => [.staged, .processing]
  | .returnToStaged _ => [.processing]
  | .blobReady _ => [.processing]
  | .markFailed _ => [.processing, .staged]
  | .markLost _ => [.staged, .processing]
  | .demoteOrphaned _ => [.staged, .processing, .failed ""]

def blobId : ProcessingUpdate → Option String
  | .blobReady blobId => some blobId
  | _ => none

def newState : ProcessingUpdate → PayloadAvailability
  | .startProcessing => .processing
  | .returnToStaged _ => .staged
  | .blobReady _ => .blobReady
  | .markFailed lastError => .failed lastError
  | .markLost _ => .lost
  | .demoteOrphaned _ => .lost

def lastError : ProcessingUpdate → Option String
  | .startProcessing => none
  | .returnToStaged lastError => some lastError
  | .blobReady _ => none
  | .markFailed lastError => some lastError
  | .markLost lastError => some lastError
  | .demoteOrphaned lastError => some lastError

end ProcessingUpdate

structure EntryStore where
  representations : RepresentationTable
  entries : Table String String
  captured : Table RepKey PersistedClipboardRepresentation

inductive StoreAction where
  /-- `CommitMode::Create`, up to the event. -/
  | insertEvent (eventId : String)
      (reps : List PersistedClipboardRepresentation) (nonces : String → Nonce)
  | saveEntry (entryId eventId : String)
  /-- `CommitMode::Replace`. -/
  | replaceEntryContent (entryId newEventId : String)
      (reps : List PersistedClipboardRepresentation)
  | updateProcessingResult (repId : String) (update : ProcessingUpdate)
  | updateMimeType (repId : String) (mime : MimeType)
  | deleteEvent (eventId : String)

namespace EntryStore

def empty : EntryStore := ⟨∅, ∅, ∅⟩

def remember (store : EntryStore) (eventId : String)
    (reps : List PersistedClipboardRepresentation) :
    Table RepKey PersistedClipboardRepresentation :=
  store.captured.putEach (fun rep => ⟨eventId, rep.id⟩) id reps

section Step

variable (cipher : Sealing MasterKey Nonce) (masterKey : MasterKey)

/-- One write.  A representation is built by `new_with_state`; a write that
fails is rolled back. -/
def step (store : EntryStore) : StoreAction → Option EntryStore
  | .insertEvent eventId reps nonces =>
      if reps.all fun rep => rep.isConsistent then
        (insertEvent cipher (some masterKey) nonces eventId reps
            store.representations).toOption.map fun updated =>
          { store with
            representations := updated
            captured := store.remember eventId reps }
      else
        none
  | .saveEntry entryId eventId =>
      if (store.entries.find entryId).isSome then
        none
      else
        some { store with entries := store.entries.put entryId eventId }
  | .replaceEntryContent entryId newEventId reps =>
      if reps.all fun rep => rep.isConsistent then
        (store.entries.find entryId).bind fun oldEventId =>
          (replaceEventContent oldEventId newEventId reps
              store.representations).toOption.map fun updated =>
            { representations := updated
              entries := store.entries.put entryId newEventId
              captured := store.remember newEventId reps }
      else
        none
  | .updateProcessingResult repId update =>
      some { store with
        representations := store.representations.updateProcessingResult repId
          update.expectedStates update.blobId update.newState
          update.lastError }
  | .updateMimeType repId mime =>
      some { store with
        representations := store.representations.updateMimeType repId mime }
  | .deleteEvent eventId =>
      some { store with
        representations := store.representations.deleteEvent eventId }

/-- No upgrade writes inline bytes. -/
def replacesWithoutInline (_ : EntryStore) : StoreAction → Prop
  | .replaceEntryContent _ _ reps => ∀ rep ∈ reps, rep.inlineData = none
  | _ => True

instance (store : EntryStore) (action : StoreAction) :
    Decidable (replacesWithoutInline store action) := by
  unfold replacesWithoutInline
  cases action <;> infer_instance

end Step

/-- A row as a reader should see it: with the inline data that was captured,
if it still has inline data. -/
def asCaptured (store : EntryStore) (row : SnapshotRepresentationRow) :
    PersistedClipboardRepresentation :=
  { row.rep with
    inlineData := row.inlineData.bind fun _ =>
      (store.captured.find ⟨row.eventId, row.rep.id⟩).bind
        PersistedClipboardRepresentation.inlineData }

/-! ## What every row keeps -/

section Kept

variable (cipher : Sealing MasterKey Nonce) (masterKey : MasterKey)

/-- What is stored of a representation of an event against what was
captured. -/
structure KeepsCapture (eventId : String)
    (original rep : PersistedClipboardRepresentation) : Prop where
  sameId : rep.id = original.id
  sameFormat : rep.formatId = original.formatId
  consistent : rep.isConsistent = true
  inline : ∀ bytes, rep.inlineData = some bytes →
    ∃ nonce plaintext, original.inlineData = some plaintext ∧
      bytes = cipher.encrypt masterKey nonce plaintext
        (Aad.forInline eventId rep.id)
  emptied : rep.inlineData = none → rep.blobId = none →
    original.inlineData = none

/-- Each row stands under its identifier and keeps what was captured. -/
def Kept (store : EntryStore) : Prop :=
  ∀ repId row, store.representations.find repId = some row →
    row.rep.id = repId ∧
      ∃ original,
        store.captured.find ⟨row.eventId, repId⟩ = some original ∧
          KeepsCapture cipher masterKey row.eventId original row.rep

variable {cipher masterKey}
variable {store after : EntryStore} {row before : SnapshotRepresentationRow}
variable {eventId : String}
variable {original rep : PersistedClipboardRepresentation}

theorem keepsCapture_of_encrypted {nonces : String → Nonce}
    (encrypted : encryptRepresentation cipher (some masterKey) nonces eventId
      original = .ok rep) :
    KeepsCapture cipher masterKey eventId original rep := by
  obtain ⟨consistent, isRep⟩ := encryptRepresentation_eq_ok encrypted
  rw [isRep] at consistent ⊢
  refine ⟨rfl, rfl, consistent, ?_, ?_⟩
  · intro bytes hasInline
    obtain ⟨plaintext, isPlaintext, isBytes⟩ :=
      Option.map_eq_some_iff.mp hasInline
    exact ⟨nonces original.id, plaintext, isPlaintext, isBytes.symm⟩
  · intro noInline _
    exact Option.map_eq_none_iff.mp noInline

theorem keepsCapture_of_noInline (consistent : rep.isConsistent = true)
    (noInline : rep.inlineData = none) :
    KeepsCapture cipher masterKey eventId rep rep := by
  refine ⟨rfl, rfl, consistent, ?_, fun _ _ => noInline⟩
  intro bytes hasInline
  rw [noInline] at hasInline
  cases hasInline

theorem isConsistent_processed (update : ProcessingUpdate)
    (consistent : before.rep.isConsistent = true) :
    (before.processed update.blobId update.newState
      update.lastError).rep.isConsistent = true := by
  cases update <;>
    simp_all [SnapshotRepresentationRow.processed,
      PersistedClipboardRepresentation.isConsistent,
      PayloadAvailability.requiresInlineData,
      PayloadAvailability.requiresBlobId, ProcessingUpdate.blobId,
      ProcessingUpdate.newState, ProcessingUpdate.lastError]

theorem KeepsCapture.processed {update : ProcessingUpdate}
    (keeps : KeepsCapture cipher masterKey eventId original before.rep) :
    KeepsCapture cipher masterKey eventId original
      (before.processed update.blobId update.newState
        update.lastError).rep := by
  have consistent := isConsistent_processed update keeps.consistent
  unfold SnapshotRepresentationRow.processed at consistent ⊢
  cases isBlob : update.blobId with
  | none =>
      rw [isBlob] at consistent
      exact ⟨keeps.sameId, keeps.sameFormat, consistent, keeps.inline,
        keeps.emptied⟩
  | some blobId =>
      rw [isBlob] at consistent
      refine ⟨keeps.sameId, keeps.sameFormat, consistent, ?_, ?_⟩
      · intro bytes hasInline
        cases hasInline
      · intro _ noBlob
        cases noBlob

theorem KeepsCapture.withMimeType {mime : MimeType}
    (keeps : KeepsCapture cipher masterKey eventId original before.rep) :
    KeepsCapture cipher masterKey eventId original
      (before.withMimeType mime).rep :=
  ⟨keeps.sameId, keeps.sameFormat, keeps.consistent, keeps.inline,
    keeps.emptied⟩

theorem Kept.insertRows {originals reps : List PersistedClipboardRepresentation}
    {updated : RepresentationTable} {entries : Table String String}
    (kept : store.Kept cipher masterKey)
    (pointwise : List.Forall₂ (KeepsCapture cipher masterKey eventId)
      originals reps)
    (inserted : RepresentationTable.insertRows eventId reps
      store.representations = some updated) :
    Kept cipher masterKey ⟨updated, entries,
      store.remember eventId originals⟩ := by
  have sameIds : originals.map (fun rep => rep.id) =
      reps.map fun rep => rep.id := by
    clear inserted
    induction pointwise with
    | nil => rfl
    | cons keeps _ inductionHypothesis =>
        rw [List.map_cons, List.map_cons, inductionHypothesis, keeps.sameId]
  obtain ⟨unused, distinct⟩ := unused_of_insertRows inserted
  have distinctKeys : (originals.map fun rep =>
      (⟨eventId, rep.id⟩ : RepKey)).Nodup := by
    rw [← sameIds] at distinct
    have mapped := distinct.map
      (f := fun repId => (⟨eventId, repId⟩ : RepKey)) ?_
    · rw [List.map_map] at mapped
      exact mapped
    · intro left right same
      cases same
      rfl
  intro repId row found
  cases find_insertRows inserted found with
  | inl isBefore =>
      obtain ⟨isId, original, isCaptured, keeps⟩ := kept repId row isBefore
      refine ⟨isId, original, ?_, keeps⟩
      show (store.remember eventId originals).find _ = _
      unfold remember
      rw [Table.find_putEach_of_not_mem, isCaptured]
      intro isNew
      obtain ⟨other, inOriginals, same⟩ := List.mem_map.mp isNew
      have inIds : other.id ∈ reps.map fun rep => rep.id := by
        rw [← sameIds]
        exact List.mem_map_of_mem inOriginals
      obtain ⟨rep, inReps, isRepId⟩ := List.mem_map.mp inIds
      have absent := unused rep inReps
      cases same
      rw [isRepId, isBefore] at absent
      cases absent
  | inr isNew =>
      obtain ⟨rep, inReps, isId, ofEvent, isRep⟩ := isNew
      obtain ⟨original, inOriginals, keeps⟩ :=
        exists_of_forall₂ pointwise inReps
      rw [isRep, ofEvent]
      refine ⟨isId, original, ?_, keeps⟩
      rw [← isId, keeps.sameId]
      exact Table.find_putEach_of_mem distinctKeys inOriginals

theorem Kept.deleteEvent (kept : store.Kept cipher masterKey)
    (deleted : String) :
    Kept cipher masterKey { store with
      representations := store.representations.deleteEvent deleted } := by
  intro repId row found
  rw [find_deleteEvent, Option.filter_eq_some_iff] at found
  exact kept repId row found.1

theorem Kept.step {action : StoreAction} (kept : store.Kept cipher masterKey)
    (without : replacesWithoutInline store action)
    (stepped : EntryStore.step cipher masterKey store action = some after) :
    after.Kept cipher masterKey := by
  cases action with
  | insertEvent eventId reps nonces =>
      simp only [EntryStore.step, Option.ite_none_right_eq_some] at stepped
      obtain ⟨updated, isUpdated, rfl⟩ := Option.map_eq_some_iff.mp stepped.2
      obtain ⟨encrypted, isEncrypted, inserted⟩ :=
        bind_eq_ok_iff.mp (toOption_eq_some_iff.mp isUpdated)
      apply kept.insertRows _ (orRefused_eq_ok_iff.mp inserted)
      exact (mapM_eq_ok_iff.mp isEncrypted).imp fun _ _ ofRep =>
        keepsCapture_of_encrypted ofRep
  | saveEntry entryId eventId =>
      simp only [EntryStore.step, Option.ite_none_left_eq_some] at stepped
      cases stepped.2
      exact kept
  | replaceEntryContent entryId newEventId reps =>
      simp only [EntryStore.step, Option.ite_none_right_eq_some] at stepped
      obtain ⟨consistent, replaced⟩ := stepped
      obtain ⟨oldEventId, _, isReplaced⟩ := Option.bind_eq_some_iff.mp replaced
      obtain ⟨updated, isUpdated, rfl⟩ := Option.map_eq_some_iff.mp isReplaced
      obtain ⟨inserted, isInserted, rfl⟩ :=
        map_eq_ok_iff.mp (toOption_eq_some_iff.mp isUpdated)
      refine Kept.deleteEvent (kept.insertRows ?_
        (orRefused_eq_ok_iff.mp isInserted)) oldEventId
      apply List.forall₂_same.mpr
      intro rep inReps
      exact keepsCapture_of_noInline (List.all_eq_true.mp consistent rep inReps)
        (without rep inReps)
  | updateProcessingResult updatedId update =>
      cases stepped
      intro repId row found
      cases find_updateProcessingResult found with
      | inl isBefore => exact kept repId row isBefore
      | inr isProcessed =>
          obtain ⟨before, isBefore, rfl⟩ := isProcessed
          obtain ⟨isId, original, isCaptured, keeps⟩ :=
            kept repId before isBefore
          rw [SnapshotRepresentationRow.processed_eventId]
          refine ⟨?_, original, isCaptured, keeps.processed⟩
          rw [keeps.processed.sameId, ← keeps.sameId, isId]
  | updateMimeType updatedId mime =>
      cases stepped
      intro repId row found
      cases find_updateMimeType found with
      | inl isBefore => exact kept repId row isBefore
      | inr isUpdated =>
          obtain ⟨before, isBefore, rfl⟩ := isUpdated
          obtain ⟨isId, original, isCaptured, keeps⟩ :=
            kept repId before isBefore
          exact ⟨isId, original, isCaptured, keeps.withMimeType⟩
  | deleteEvent deleted =>
      cases stepped
      exact kept.deleteEvent deleted

end Kept

/-! ## What every read returns -/

section Reads

variable (cipher : Sealing MasterKey Nonce) (masterKey : MasterKey)

/-- Inline data is at rest under its associated data, and the reads return
what was captured; a read by identifier alone does so where there is nothing
to decrypt. -/
structure ReadsBack (store : EntryStore) : Prop where
  atRest : ∀ key row bytes, store.representations.findRep key = some row →
    row.inlineData = some bytes →
      ∃ original nonce plaintext, store.captured.find key = some original ∧
        original.inlineData = some plaintext ∧
        bytes = cipher.encrypt masterKey nonce plaintext
          (Aad.forInline key.eventId key.repId)
  complete : ∀ key row, store.representations.findRep key = some row →
    ∃ original, store.captured.find key = some original ∧
      row.rep.formatId = original.formatId ∧
      (row.inlineData = none → row.rep.blobId = none →
        original.inlineData = none)
  byKey : ∀ key,
    getRepresentation cipher (some masterKey) store.representations key =
      .ok ((store.representations.findRep key).map store.asCaptured)
  byId : ∀ repId row, store.representations.find repId = some row →
    (getRepresentationById store.representations repId =
        .ok (some (store.asCaptured row)) ↔
      row.inlineData = none)
  byBlobId : ∀ blobId,
    getRepresentationByBlobId store.representations blobId =
      .ok ((store.representations.rows.find? fun entry =>
        entry.2.rep.blobId == some blobId).map fun entry =>
          store.asCaptured entry.2)
  forEvent : ∀ eventId,
    getRepresentationsForEvent cipher (some masterKey) store.representations
        eventId =
      .ok (((store.representations.rows.map Prod.snd).filter fun row =>
        row.eventId == eventId).map store.asCaptured)

variable {cipher masterKey}
variable {store final : EntryStore} {row : SnapshotRepresentationRow}
variable {original : PersistedClipboardRepresentation}

theorem asCaptured_of_noInline (noInline : row.inlineData = none) :
    store.asCaptured row = row.rep := by
  unfold asCaptured
  rw [noInline, Option.bind_none, ← noInline]
  rfl

theorem asCaptured_of_inline {bytes plaintext : List UInt8}
    (isCaptured : store.captured.find ⟨row.eventId, row.rep.id⟩ =
      some original)
    (isPlaintext : original.inlineData = some plaintext)
    (hasInline : row.inlineData = some bytes) :
    store.asCaptured row = { row.rep with inlineData := some plaintext } := by
  unfold asCaptured
  rw [hasInline, isCaptured, Option.bind_some, Option.bind_some, isPlaintext]

variable (kept : store.Kept cipher masterKey)

include kept

theorem toDomain_of_kept {repId : String}
    (found : store.representations.find repId = some row) :
    row.toDomain = .ok row.rep := by
  obtain ⟨_, original, _, keeps⟩ := kept repId row found
  exact SnapshotRepresentationRow.toDomain_of_isConsistent keeps.consistent

theorem opens_of_kept {repId : String} {bytes : List UInt8}
    (found : store.representations.find repId = some row)
    (hasInline : row.inlineData = some bytes) :
    ∃ plaintext,
      cipher.decrypt masterKey bytes (Aad.forInline row.eventId row.rep.id) =
        some plaintext ∧
      store.asCaptured row = { row.rep with inlineData := some plaintext } ∧
      { row.rep with inlineData := some plaintext }.isConsistent = true := by
  obtain ⟨isId, original, isCaptured, keeps⟩ := kept repId row found
  obtain ⟨nonce, plaintext, isPlaintext, isBytes⟩ := keeps.inline bytes hasInline
  rw [← isId] at isCaptured
  refine ⟨plaintext, ?_, asCaptured_of_inline isCaptured isPlaintext hasInline,
    isConsistent_withInlineData plaintext hasInline keeps.consistent⟩
  rw [isBytes]
  exact cipher.decrypt_encrypt _ _ _ _

theorem getRepresentation_of_kept (key : RepKey) :
    getRepresentation cipher (some masterKey) store.representations key =
      .ok ((store.representations.findRep key).map store.asCaptured) := by
  cases found : store.representations.findRep key with
  | none =>
      unfold getRepresentation
      rw [found]
      rfl
  | some row =>
      obtain ⟨isRow, sameEvent⟩ := findRep_eq_some_iff.mp found
      have decoded := toDomain_of_kept kept isRow
      cases data : row.inlineData with
      | none =>
          obtain ⟨_, original, _, keeps⟩ := kept key.repId row isRow
          have noInline : row.rep.inlineData = none := data
          have rebuilt : orInconsistent row.rep.newWithState = .ok row.rep :=
            orInconsistent_newWithState.mpr ⟨keeps.consistent, rfl⟩
          unfold getRepresentation
          simp only [found, decoded, Option.map_some]
          apply bind_eq_ok_iff.mpr
          refine ⟨row.rep, rfl, ?_⟩
          simp only [noInline, rebuilt, asCaptured_of_noInline data]
          rfl
      | some bytes =>
          obtain ⟨plaintext, opened, isCaptured, consistent⟩ :=
            opens_of_kept kept isRow data
          have isId := (kept key.repId row isRow).1
          rw [sameEvent, isId] at opened
          rw [Option.map_some, isCaptured]
          exact getRepresentation_of_inlineData found decoded data opened
            consistent

theorem decryptForEvent_of_kept {repId : String}
    (found : store.representations.find repId = some row) :
    decryptForEvent cipher (some masterKey) row.eventId row.rep =
      .ok (store.asCaptured row) := by
  unfold decryptForEvent
  cases data : row.inlineData with
  | none =>
      have noInline : row.rep.inlineData = none := data
      simp only [noInline, asCaptured_of_noInline data]
  | some bytes =>
      have hasInline : row.rep.inlineData = some bytes := data
      obtain ⟨plaintext, opened, isCaptured, consistent⟩ :=
        opens_of_kept kept found data
      have decrypted := blobDecrypt_eq_ok_iff.mpr opened
      simp only [hasInline, decrypted, isCaptured]
      exact orInconsistent_newWithState.mpr ⟨consistent, rfl⟩

theorem getRepresentationsForEvent_of_kept (eventId : String) :
    getRepresentationsForEvent cipher (some masterKey) store.representations
        eventId =
      .ok (((store.representations.rows.map Prod.snd).filter fun row =>
        row.eventId == eventId).map store.asCaptured) := by
  let rows := (store.representations.rows.map Prod.snd).filter fun row =>
    row.eventId == eventId
  have stored : ∀ row ∈ rows, ∃ repId,
      store.representations.find repId = some row ∧ row.eventId = eventId := by
    intro row inRows
    obtain ⟨listed, sameEvent⟩ := List.mem_filter.mp inRows
    obtain ⟨entry, inEntries, isRow⟩ := List.mem_map.mp listed
    subst isRow
    exact ⟨entry.1, Table.mem_rows_iff.mp inEntries, by simpa using sameEvent⟩
  have decoded : rows.mapM SnapshotRepresentationRow.toDomain =
      .ok (rows.map SnapshotRepresentationRow.rep) := by
    apply mapM_eq_ok_iff.mpr
    apply List.forall₂_map_right_iff.mpr
    apply List.forall₂_same.mpr
    intro row inRows
    obtain ⟨repId, found, _⟩ := stored row inRows
    exact toDomain_of_kept kept found
  have decrypted : (rows.map SnapshotRepresentationRow.rep).mapM
      (decryptForEvent cipher (some masterKey) eventId) =
        .ok (rows.map store.asCaptured) := by
    apply mapM_eq_ok_iff.mpr
    apply List.forall₂_map_right_iff.mpr
    apply List.forall₂_map_left_iff.mpr
    apply List.forall₂_same.mpr
    intro row inRows
    obtain ⟨repId, found, sameEvent⟩ := stored row inRows
    rw [← sameEvent]
    exact decryptForEvent_of_kept kept found
  exact bind_eq_ok_iff.mpr ⟨_, decoded, decrypted⟩

theorem getRepresentationByBlobId_of_kept (blobId : String) :
    getRepresentationByBlobId store.representations blobId =
      .ok ((store.representations.rows.find? fun entry =>
        entry.2.rep.blobId == some blobId).map fun entry =>
          store.asCaptured entry.2) := by
  unfold getRepresentationByBlobId
  cases found : store.representations.rows.find? fun entry =>
      entry.2.rep.blobId == some blobId with
  | none => rfl
  | some entry =>
      have isRow := Table.mem_rows_iff.mp (List.mem_of_find?_eq_some found)
      have hasBlob : entry.2.rep.blobId = some blobId := by
        simpa using List.find?_some found
      have noInline : entry.2.inlineData = none := by
        cases entry.2.exclusive with
        | inl noInline => exact noInline
        | inr noBlob =>
            rw [hasBlob] at noBlob
            cases noBlob
      simp only [toDomain_of_kept kept isRow, Option.map_some,
        asCaptured_of_noInline noInline]
      rfl

/-- Without the event's identifier the ciphertext is handed on. -/
theorem getRepresentationById_of_kept {repId : String}
    (neverPlain : ∀ nonce plaintext aad,
      cipher.encrypt masterKey nonce plaintext aad ≠ plaintext)
    (found : store.representations.find repId = some row) :
    getRepresentationById store.representations repId =
        .ok (some (store.asCaptured row)) ↔
      row.inlineData = none := by
  have read : getRepresentationById store.representations repId =
      .ok (some row.rep) := by
    unfold getRepresentationById
    simp only [found, toDomain_of_kept kept found]
    rfl
  rw [read]
  constructor
  · intro same
    cases data : row.inlineData with
    | none => rfl
    | some bytes =>
        obtain ⟨isId, original, isCaptured, keeps⟩ := kept repId row found
        obtain ⟨nonce, plaintext, isPlaintext, isBytes⟩ :=
          keeps.inline bytes data
        rw [← isId] at isCaptured
        rw [asCaptured_of_inline isCaptured isPlaintext data, Except.ok.injEq,
          Option.some.injEq] at same
        have sameInline : row.rep.inlineData = some plaintext :=
          congrArg PersistedClipboardRepresentation.inlineData same
        have isInline : row.rep.inlineData = some bytes := data
        rw [isInline, Option.some.injEq, isBytes] at sameInline
        exact absurd sameInline (neverPlain _ _ _)
  · intro noInline
    rw [asCaptured_of_noInline noInline]

omit kept

/-- In every history whose upgrades write no inline bytes, inline data is
encrypted at rest and the reads return what was captured. -/
theorem encryptionIsSymmetric
    (neverPlain : ∀ nonce plaintext aad,
      cipher.encrypt masterKey nonce plaintext aad ≠ plaintext)
    (run : Run (EntryStore.step cipher masterKey) replacesWithoutInline empty
      store) :
    store.ReadsBack cipher masterKey := by
  have initially : empty.Kept cipher masterKey := by
    intro repId row found
    cases found
  have kept : store.Kept cipher masterKey :=
    run.preserves initially fun before action after holds without stepped =>
      holds.step without stepped
  refine ⟨?_, ?_, getRepresentation_of_kept kept, ?_,
    getRepresentationByBlobId_of_kept kept,
    getRepresentationsForEvent_of_kept kept⟩
  · intro key row bytes found hasInline
    obtain ⟨isRow, sameEvent⟩ := findRep_eq_some_iff.mp found
    obtain ⟨isId, original, isCaptured, keeps⟩ := kept key.repId row isRow
    obtain ⟨nonce, plaintext, isPlaintext, isBytes⟩ :=
      keeps.inline bytes hasInline
    rw [sameEvent] at isCaptured isBytes
    rw [isId] at isBytes
    exact ⟨original, nonce, plaintext, isCaptured, isPlaintext, isBytes⟩
  · intro key row found
    obtain ⟨isRow, sameEvent⟩ := findRep_eq_some_iff.mp found
    obtain ⟨_, original, isCaptured, keeps⟩ := kept key.repId row isRow
    rw [sameEvent] at isCaptured
    exact ⟨original, isCaptured, keeps.sameFormat, keeps.emptied⟩
  · intro repId row found
    exact getRepresentationById_of_kept kept neverPlain found

end Reads

/-! ## An upgrade that writes inline bytes -/

def secondRep : PersistedClipboardRepresentation :=
  { sampleRep [111] with id := "rep-2" }

/-- A representation that waits for its blob. -/
def stagedRep : PersistedClipboardRepresentation :=
  { sampleRep [111] with
    id := "rep-2"
    inlineData := none
    payloadState := .staged }

def createSample (reps : List PersistedClipboardRepresentation) :
    List StoreAction :=
  [.insertEvent "event-1" reps fun _ => sampleNonce,
    .saveEntry "entry-1" "event-1"]

/-- A text and an image are captured and the image's blob is written. -/
theorem encryptionIsSymmetric_sample :
    ∃ store,
      Run (EntryStore.step sampleCipher (sampleKey 1)) replacesWithoutInline
        empty store ∧
      (store.representations.find "rep-1").isSome = true ∧
      store.ReadsBack sampleCipher (sampleKey 1) := by
  let step := EntryStore.step sampleCipher (sampleKey 1)
  let actions := createSample [sampleRep [104, 105], stagedRep] ++
    [.updateProcessingResult "rep-2" .startProcessing,
      .updateProcessingResult "rep-2" (.blobReady "blob-1")]
  have guarded : Guarded step replacesWithoutInline empty actions := by
    decide +kernel
  have ended : (execute step empty actions).map
      (fun store => (store.representations.find "rep-1").isSome) =
        some true := by
    decide +kernel
  obtain ⟨store, executed, isStored⟩ := Option.map_eq_some_iff.mp ended
  have run := Run.ofExecute guarded executed
  exact ⟨store, run, isStored,
    encryptionIsSymmetric (fun nonce plaintext aad =>
      sampleCipher_ne_plaintext) run⟩

/-- An upgrade stores the captured bytes as they are: the row does not open,
and the reads of the event and of the representation hand it on undecrypted. -/
theorem upgrade_stores_plaintext :
    ((execute (EntryStore.step sampleCipher (sampleKey 1)) empty
        (createSample [sampleRep [104, 105]] ++
          [.replaceEntryContent "entry-1" "event-2" [secondRep]])).map
      fun store =>
        (store.representations.readMainInlineData ⟨"event-2", "rep-2"⟩,
          (getRepresentation sampleCipher (some (sampleKey 1))
            store.representations ⟨"event-2", "rep-2"⟩).toOption,
          (getRepresentationsForEvent sampleCipher (some (sampleKey 1))
            store.representations "event-2").toOption)) =
      some (some [111], none, some [secondRep]) := by
  decide +kernel

end EntryStore

end OpenClipboard
