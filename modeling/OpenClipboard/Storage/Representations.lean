import OpenClipboard.Core.Snapshot
import OpenClipboard.Library.Table

/-!
# The representation table

The rows of `clipboard_snapshot_representation` and the statements that the
repositories run on them.  The table's CHECK, which keeps inline data and a
blob apart, is part of the row type: a statement that would break it fails.
-/

namespace OpenClipboard

inductive PayloadAvailability where
  | inline
  | blobReady
  | staged
  | processing
  | failed (lastError : String)
  | lost
  deriving DecidableEq, Repr

namespace PayloadAvailability

def requiresInlineData : PayloadAvailability → Bool
  | .inline => true
  | _ => false

def requiresBlobId : PayloadAvailability → Bool
  | .blobReady => true
  | _ => false

/-- The text in the `payload_state` column. -/
def asStr : PayloadAvailability → String
  | .inline => "Inline"
  | .blobReady => "BlobReady"
  | .staged => "Staged"
  | .processing => "Processing"
  | .failed _ => "Failed"
  | .lost => "Lost"

end PayloadAvailability

structure PersistedClipboardRepresentation where
  id : String
  formatId : FormatId
  mimeType : Option MimeType
  sizeBytes : Int
  inlineData : Option (List UInt8)
  blobId : Option String
  payloadState : PayloadAvailability
  lastError : Option String
  deriving DecidableEq, Repr

namespace PersistedClipboardRepresentation

/-- What `new_with_state` accepts. -/
def isConsistent (rep : PersistedClipboardRepresentation) : Bool :=
  !(rep.inlineData.isSome && rep.blobId.isSome) &&
    !(rep.payloadState.requiresInlineData && rep.inlineData.isNone) &&
    !(rep.payloadState.requiresBlobId && rep.blobId.isNone) &&
    match rep.payloadState with
    | .failed stateError => rep.lastError == some stateError
    | _ => true

def newWithState (rep : PersistedClipboardRepresentation) :
    Option PersistedClipboardRepresentation :=
  if rep.isConsistent then some rep else none

end PersistedClipboardRepresentation

structure SnapshotRepresentationRow where
  eventId : String
  rep : PersistedClipboardRepresentation
  exclusive : rep.inlineData = none ∨ rep.blobId = none
  deriving DecidableEq

abbrev RepresentationTable := Table String SnapshotRepresentationRow

/-- The pair that the queries on one representation filter by. -/
structure RepKey where
  eventId : String
  repId : String
  deriving DecidableEq, Repr

/-- A representation with its inline data. -/
def sampleRep (bytes : List UInt8) : PersistedClipboardRepresentation where
  id := "rep-1"
  formatId := ⟨"text"⟩
  mimeType := some ⟨"text/plain"⟩
  sizeBytes := bytes.length
  inlineData := some bytes
  blobId := none
  payloadState := .inline
  lastError := none

variable {bytes : List UInt8} {updated : RepresentationTable} {eventId : String}
  {reps : List PersistedClipboardRepresentation} {blobId : Option String}
  {lastError : Option String} {newState : PayloadAvailability}

namespace SnapshotRepresentationRow

def inlineData (row : SnapshotRepresentationRow) : Option (List UInt8) :=
  row.rep.inlineData

/-- `to_row`, refused by the CHECK. -/
def ofRep (eventId : String) (rep : PersistedClipboardRepresentation) :
    Option SnapshotRepresentationRow :=
  if exclusive : rep.inlineData = none ∨ rep.blobId = none then
    some ⟨eventId, rep, exclusive⟩
  else
    none

/-- The row with other inline data, refused by the CHECK if it has a blob. -/
def withInlineData (row : SnapshotRepresentationRow) (bytes : List UInt8) :
    Option SnapshotRepresentationRow :=
  ofRep row.eventId { row.rep with inlineData := some bytes }

/-- The row after a processing update; a blob takes the place of inline
data. -/
def processed (row : SnapshotRepresentationRow) (blobId : Option String)
    (newState : PayloadAvailability) (lastError : Option String) :
    SnapshotRepresentationRow :=
  match blobId with
  | some blobId => {
      eventId := row.eventId
      rep := { row.rep with
        payloadState := newState
        lastError := lastError
        inlineData := none
        blobId := some blobId }
      exclusive := Or.inl rfl }
  | none => {
      eventId := row.eventId
      rep := { row.rep with payloadState := newState, lastError := lastError }
      exclusive := row.exclusive }

def withMimeType (row : SnapshotRepresentationRow) (mime : MimeType) :
    SnapshotRepresentationRow where
  eventId := row.eventId
  rep := { row.rep with mimeType := some mime }
  exclusive := row.exclusive

theorem withInlineData_eq_some_iff {row updated : SnapshotRepresentationRow} :
    row.withInlineData bytes = some updated ↔
      row.rep.blobId = none ∧ updated.eventId = row.eventId ∧
        updated.rep = { row.rep with inlineData := some bytes } := by
  obtain ⟨eventId, rep, exclusive⟩ := updated
  unfold withInlineData ofRep
  by_cases noBlob : row.rep.blobId = none
  · simp [noBlob, eq_comm]
  · simp [noBlob]

end SnapshotRepresentationRow

namespace RepresentationTable

/-- The filter by event and representation. -/
def findRep (table : RepresentationTable) (key : RepKey) :
    Option SnapshotRepresentationRow :=
  (table.find key.repId).filter fun row => row.eventId == key.eventId

def readMainInlineData (table : RepresentationTable) (key : RepKey) :
    Option (List UInt8) :=
  (table.findRep key).bind SnapshotRepresentationRow.inlineData

/-- `list_main_inline_representations`, in some order. -/
def mainInlineRepresentations (table : RepresentationTable) : List RepKey :=
  table.rows.filterMap fun entry =>
    entry.2.inlineData.map fun _ => ⟨entry.2.eventId, entry.1⟩

/-- `update_main_inline_data`; a missing row is no error. -/
def updateMainInlineData (table : RepresentationTable) (key : RepKey)
    (newCiphertext : List UInt8) : Option RepresentationTable :=
  match table.findRep key with
  | none => some table
  | some row =>
      (row.withInlineData newCiphertext).map fun updated =>
        table.put key.repId updated

/-- The inserts of one event, refused for a used identifier. -/
def insertRows (eventId : String) :
    List PersistedClipboardRepresentation → RepresentationTable →
      Option RepresentationTable
  | [], table => some table
  | rep :: rest, table =>
      if (table.find rep.id).isSome then
        none
      else
        (SnapshotRepresentationRow.ofRep eventId rep).bind fun row =>
          insertRows eventId rest (table.put rep.id row)

def deleteEvent (table : RepresentationTable) (eventId : String) :
    RepresentationTable :=
  table.removeAll <| table.rows.filterMap fun entry =>
    if entry.2.eventId = eventId then some entry.1 else none

/-- `update_processing_result`; nothing happens to a missing row or one in
another state. -/
def updateProcessingResult (table : RepresentationTable) (repId : String)
    (expectedStates : List PayloadAvailability) (blobId : Option String)
    (newState : PayloadAvailability) (lastError : Option String) :
    RepresentationTable :=
  match table.find repId with
  | none => table
  | some row =>
      if row.rep.payloadState.asStr ∈
          expectedStates.map PayloadAvailability.asStr then
        table.put repId (row.processed blobId newState lastError)
      else
        table

/-- `update_mime_type`; a missing row is no error. -/
def updateMimeType (table : RepresentationTable) (repId : String)
    (mime : MimeType) : RepresentationTable :=
  match table.find repId with
  | none => table
  | some row => table.put repId (row.withMimeType mime)

variable {table : RepresentationTable} {key : RepKey} {repId : String}
variable {row : SnapshotRepresentationRow}

theorem findRep_eq_some_iff :
    table.findRep key = some row ↔
      table.find key.repId = some row ∧ row.eventId = key.eventId := by
  unfold findRep
  cases found : table.find key.repId with
  | none => simp
  | some other =>
      rw [Option.filter_some]
      by_cases sameEvent : other.eventId = key.eventId
      · rw [if_pos (by simpa using sameEvent), Option.some.injEq]
        constructor
        · intro same
          subst same
          exact ⟨rfl, sameEvent⟩
        · exact And.left
      · rw [if_neg (by simpa using sameEvent)]
        simp only [reduceCtorEq, Option.some.injEq, false_iff]
        intro both
        exact sameEvent (both.1 ▸ both.2)

theorem mem_mainInlineRepresentations :
    key ∈ table.mainInlineRepresentations ↔
      ∃ row bytes, table.findRep key = some row ∧
        row.inlineData = some bytes := by
  simp only [mainInlineRepresentations, List.mem_filterMap, Prod.exists,
    findRep_eq_some_iff, Option.map_eq_some_iff]
  constructor
  · intro listed
    obtain ⟨repId, row, inRows, bytes, hasInline, rfl⟩ := listed
    exact ⟨row, bytes, ⟨Table.mem_rows_iff.mp inRows, rfl⟩, hasInline⟩
  · intro found
    obtain ⟨row, bytes, ⟨isRow, sameEvent⟩, hasInline⟩ := found
    refine ⟨key.repId, row, Table.mem_rows_iff.mpr isRow, bytes, hasInline, ?_⟩
    rw [sameEvent]

theorem readMainInlineData_eq_some_iff :
    table.readMainInlineData key = some bytes ↔
      ∃ row, table.findRep key = some row ∧ row.inlineData = some bytes := by
  rw [readMainInlineData, Option.bind_eq_some_iff]

theorem updateMainInlineData_of_missing (missing : table.findRep key = none) :
    table.updateMainInlineData key bytes = some table := by
  unfold updateMainInlineData
  rw [missing]

theorem findRep_updateMainInlineData (found : table.findRep key = some row)
    (isUpdated : table.updateMainInlineData key bytes = some updated) :
    ∃ written, row.withInlineData bytes = some written ∧
      updated.findRep key = some written := by
  unfold updateMainInlineData at isUpdated
  rw [found] at isUpdated
  obtain ⟨written, ofRow, rfl⟩ := Option.map_eq_some_iff.mp isUpdated
  refine ⟨written, ofRow, findRep_eq_some_iff.mpr ⟨Table.find_put_self, ?_⟩⟩
  have sameEvent :=
    (SnapshotRepresentationRow.withInlineData_eq_some_iff.mp ofRow).2.1
  exact sameEvent.trans (findRep_eq_some_iff.mp found).2

theorem findRep_updateMainInlineData_of_ne {other : RepKey}
    (different : other ≠ key)
    (isUpdated : table.updateMainInlineData key bytes = some updated) :
    updated.findRep other = table.findRep other := by
  cases found : table.findRep key with
  | none =>
      rw [updateMainInlineData_of_missing found] at isUpdated
      cases isUpdated
      rfl
  | some row =>
      obtain ⟨written, _, foundWritten⟩ :=
        findRep_updateMainInlineData found isUpdated
      have before := findRep_eq_some_iff.mp found
      have after := findRep_eq_some_iff.mp foundWritten
      by_cases sameId : other.repId = key.repId
      · have otherEvent : key.eventId ≠ other.eventId := by
          intro sameEvent
          apply different
          cases other
          cases key
          simp_all
        unfold findRep
        rw [sameId, before.1, after.1, Option.filter_some, Option.filter_some,
          before.2, after.2]
        simp [otherEvent]
      · unfold updateMainInlineData at isUpdated
        rw [found] at isUpdated
        obtain ⟨put, _, rfl⟩ := Option.map_eq_some_iff.mp isUpdated
        unfold findRep
        rw [Table.find_put_of_ne sameId]

theorem readMainInlineData_updateMainInlineData
    (present : (table.findRep key).isSome = true)
    (isUpdated : table.updateMainInlineData key bytes = some updated) :
    updated.readMainInlineData key = some bytes := by
  obtain ⟨row, found⟩ := Option.isSome_iff_exists.mp present
  obtain ⟨written, ofRow, foundWritten⟩ :=
    findRep_updateMainInlineData found isUpdated
  rw [readMainInlineData, foundWritten, Option.bind_some,
    SnapshotRepresentationRow.inlineData,
    (SnapshotRepresentationRow.withInlineData_eq_some_iff.mp ofRow).2.2]

theorem readMainInlineData_updateMainInlineData_of_ne {other : RepKey}
    (different : other ≠ key)
    (isUpdated : table.updateMainInlineData key bytes = some updated) :
    updated.readMainInlineData other = table.readMainInlineData other := by
  unfold readMainInlineData
  rw [findRep_updateMainInlineData_of_ne different isUpdated]

theorem find_deleteEvent (eventId : String) :
    (table.deleteEvent eventId).find repId =
      (table.find repId).filter fun row => row.eventId != eventId := by
  rw [deleteEvent, Table.find_removeAll]
  cases found : table.find repId with
  | none => simp
  | some row =>
      have removed_iff : repId ∈ (table.rows.filterMap fun entry =>
          if entry.2.eventId = eventId then some entry.1 else none) ↔
            row.eventId = eventId := by
        simp only [List.mem_filterMap, Prod.exists, Option.ite_none_right_eq_some,
          Option.some.injEq]
        constructor
        · intro listed
          obtain ⟨otherId, other, inRows, sameEvent, rfl⟩ := listed
          rw [Table.mem_rows_iff, found, Option.some.injEq] at inRows
          rw [inRows]
          exact sameEvent
        · intro sameEvent
          exact ⟨repId, row, Table.mem_rows_iff.mpr found, sameEvent, rfl⟩
      rw [Option.filter_some]
      by_cases sameEvent : row.eventId = eventId
      · rw [if_pos (removed_iff.mpr sameEvent), if_neg (by simpa using sameEvent)]
      · rw [if_neg (mt removed_iff.mp sameEvent),
          if_pos (by simpa using sameEvent)]

theorem ofRep_eq_some {rep : PersistedClipboardRepresentation}
    (made : SnapshotRepresentationRow.ofRep eventId rep = some row) :
    row.eventId = eventId ∧ row.rep = rep := by
  unfold SnapshotRepresentationRow.ofRep at made
  split at made
  · cases made
    exact ⟨rfl, rfl⟩
  · cases made

theorem find_insertRows
    (inserted : insertRows eventId reps table = some updated)
    (found : updated.find repId = some row) :
    table.find repId = some row ∨
      ∃ rep ∈ reps, rep.id = repId ∧ row.eventId = eventId ∧ row.rep = rep := by
  induction reps generalizing table with
  | nil =>
      cases inserted
      exact Or.inl found
  | cons rep rest inductionHypothesis =>
      unfold insertRows at inserted
      split at inserted
      · cases inserted
      · obtain ⟨made, isMade, insertedRest⟩ :=
          Option.bind_eq_some_iff.mp inserted
        cases inductionHypothesis insertedRest with
        | inl before =>
            rw [Table.find_put] at before
            by_cases same : repId = rep.id
            · rw [if_pos same, Option.some.injEq] at before
              subst before
              obtain ⟨ofEvent, isRep⟩ := ofRep_eq_some isMade
              exact Or.inr ⟨rep, List.mem_cons_self, same.symm, ofEvent, isRep⟩
            · rw [if_neg same] at before
              exact Or.inl before
        | inr ofRest =>
            obtain ⟨other, inRest, sameId, ofEvent, isRep⟩ := ofRest
            exact Or.inr ⟨other, List.mem_cons_of_mem _ inRest, sameId, ofEvent,
              isRep⟩

/-- The inserts go through only for identifiers that are new. -/
theorem unused_of_insertRows
    (inserted : insertRows eventId reps table = some updated) :
    (∀ rep ∈ reps, table.find rep.id = none) ∧
      (reps.map fun rep => rep.id).Nodup := by
  induction reps generalizing table with
  | nil =>
      refine ⟨?_, List.nodup_nil⟩
      intro rep inReps
      cases inReps
  | cons head rest inductionHypothesis =>
      unfold insertRows at inserted
      split at inserted
      · cases inserted
      · rename_i unused
        obtain ⟨made, _, insertedRest⟩ := Option.bind_eq_some_iff.mp inserted
        obtain ⟨unusedRest, distinct⟩ := inductionHypothesis insertedRest
        have other : ∀ rep ∈ rest, rep.id ≠ head.id := by
          intro rep inRest same
          have absent := unusedRest rep inRest
          rw [same, Table.find_put_self] at absent
          cases absent
        constructor
        · intro rep inReps
          cases List.mem_cons.mp inReps with
          | inl isHead =>
              rw [isHead]
              exact Option.not_isSome_iff_eq_none.mp unused
          | inr inRest =>
              rw [← unusedRest rep inRest,
                Table.find_put_of_ne (other rep inRest)]
        · apply List.nodup_cons.mpr
          refine ⟨?_, distinct⟩
          intro inRest
          obtain ⟨rep, isMember, same⟩ := List.mem_map.mp inRest
          exact other rep isMember same

theorem findRep_insertRows
    (inserted : insertRows eventId reps table = some updated)
    (found : updated.findRep key = some row) :
    table.findRep key = some row ∨
      ∃ rep ∈ reps, key = ⟨eventId, rep.id⟩ ∧ row.rep = rep := by
  obtain ⟨isRow, sameEvent⟩ := findRep_eq_some_iff.mp found
  cases find_insertRows inserted isRow with
  | inl before => exact Or.inl (findRep_eq_some_iff.mpr ⟨before, sameEvent⟩)
  | inr ofEvent =>
      obtain ⟨rep, inReps, sameId, rowEvent, isRep⟩ := ofEvent
      refine Or.inr ⟨rep, inReps, ?_, isRep⟩
      cases key
      simp_all

theorem findRep_of_deleteEvent
    (found : (table.deleteEvent eventId).findRep key = some row) :
    table.findRep key = some row := by
  obtain ⟨isRow, sameEvent⟩ := findRep_eq_some_iff.mp found
  rw [find_deleteEvent, Option.filter_eq_some_iff] at isRow
  exact findRep_eq_some_iff.mpr ⟨isRow.1, sameEvent⟩

theorem find_updateProcessingResult {updatedId : String}
    {expectedStates : List PayloadAvailability}
    (found : (table.updateProcessingResult updatedId expectedStates blobId
      newState lastError).find repId = some row) :
    table.find repId = some row ∨
      ∃ before, table.find repId = some before ∧
        row = before.processed blobId newState lastError := by
  unfold updateProcessingResult at found
  split at found
  · exact Or.inl found
  · rename_i before isBefore
    split at found
    · rw [Table.find_put] at found
      by_cases same : repId = updatedId
      · rw [if_pos same, Option.some.injEq] at found
        exact Or.inr ⟨before, same ▸ isBefore, found.symm⟩
      · rw [if_neg same] at found
        exact Or.inl found
    · exact Or.inl found

theorem find_updateMimeType {updatedId : String} {mime : MimeType}
    (found : (table.updateMimeType updatedId mime).find repId = some row) :
    table.find repId = some row ∨
      ∃ before, table.find repId = some before ∧
        row = before.withMimeType mime := by
  unfold updateMimeType at found
  split at found
  · exact Or.inl found
  · rename_i before isBefore
    rw [Table.find_put] at found
    by_cases same : repId = updatedId
    · rw [if_pos same, Option.some.injEq] at found
      exact Or.inr ⟨before, same ▸ isBefore, found.symm⟩
    · rw [if_neg same] at found
      exact Or.inl found

theorem SnapshotRepresentationRow.processed_eventId :
    (row.processed blobId newState lastError).eventId = row.eventId := by
  unfold SnapshotRepresentationRow.processed
  cases blobId <;> rfl

theorem findRep_updateProcessingResult
    {expectedStates : List PayloadAvailability}
    (found : (table.updateProcessingResult repId expectedStates blobId newState
      lastError).findRep key = some row) :
    table.findRep key = some row ∨
      ∃ before, table.findRep key = some before ∧
        row = before.processed blobId newState lastError := by
  obtain ⟨isRow, sameEvent⟩ := findRep_eq_some_iff.mp found
  cases find_updateProcessingResult isRow with
  | inl before => exact Or.inl (findRep_eq_some_iff.mpr ⟨before, sameEvent⟩)
  | inr isProcessed =>
      obtain ⟨before, isBefore, isRow⟩ := isProcessed
      refine Or.inr ⟨before, findRep_eq_some_iff.mpr ⟨isBefore, ?_⟩, isRow⟩
      rw [← sameEvent, isRow, SnapshotRepresentationRow.processed_eventId]

end RepresentationTable

end OpenClipboard
