import OpenClipboard.Library.Transition
import OpenClipboard.Storage.BlobFiles

/-!
# The blob writer

Two entry points store content under its hash.  `write_if_absent` looks the
hash up, stores and inserts; `ingest_path` stores, looks up and inserts, and
discards what it has stored wherever no record will refer to it.  Every call
of the store or of the repository is a step of its own.
-/

namespace OpenClipboard.BlobWriter

open Transition FilesystemBlobStore

structure Blob where
  blobId : String
  storagePath : String
  sizeBytes : Nat
  contentHash : Digest
  createdAtMs : Int
  compressedSize : Option Nat
  deriving DecidableEq, Repr

/-! ## The repository -/

/-- `insert_blob`: the blob id is the primary key, the content hash unique. -/
def insertBlob (fault : Option String) (records : List Blob) (record : Blob) :
    Except String (List Blob) :=
  match fault with
  | some message => .error message
  | none =>
      if record.blobId ∈ records.map Blob.blobId then
        .error "UNIQUE constraint failed: blob.blob_id"
      else if record.contentHash ∈ records.map Blob.contentHash then
        .error "UNIQUE constraint failed: blob.content_hash"
      else .ok (records ++ [record])

def findByHash (fault : Option String) (records : List Blob)
    (contentHash : Digest) : Except String (Option Blob) :=
  match fault with
  | some message => .error message
  | none => .ok (records.find? fun record => record.contentHash = contentHash)

/-! ## The calls -/

/-- What a call in progress does next. -/
inductive Task where
  | lookup (contentId : Digest) (plaintextBytes : List UInt8)
  | store (contentId : Digest) (plaintextBytes : List UInt8)
  | insert (record : Blob)
  | recheck (contentId : Digest) (insertErr : String)
  | storePath
  | dedup (stored : StoredPathBlob)
  | insertPath (record : Blob)
  | recheckPath (contentHash : Digest) (insertErr : String)
  | discard (result : Except String String)

/-- What the outside contributes to a step: the faults, the bytes of the
source and the clock. -/
structure Surroundings where
  storeFault : Option WriteFault
  repoFault : Option String
  source : List UInt8
  nowMs : Int
  deriving DecidableEq, Repr

/-- The store, the repository and the calls, each under the blob id it draws;
`finished` holds what they have returned. -/
structure Writer where
  files : BlobFiles
  records : List Blob
  drawn : List String
  calls : Table String Task
  finished : Table String (Except String String)

def Writer.empty : Writer := ⟨∅, [], [], ∅, ∅⟩

def Writer.goto (writer : Writer) (blobId : String) (task : Task) : Writer :=
  { writer with calls := writer.calls.put blobId task }

def Writer.finish (writer : Writer) (blobId : String)
    (result : Except String String) : Writer :=
  { writer with
    calls := writer.calls.remove blobId
    finished := writer.finished.put blobId result }

section Steps

variable (blake3 : Blake3) (writer : Writer) (blobId : String)
variable (around : Surroundings)

/-- One step of a call; the first four tasks are `write_if_absent`, the others
`ingest_path_inner`. -/
def advance : Task → Writer
  | .lookup contentId plaintextBytes =>
      match findByHash around.repoFault writer.records contentId with
      | .error message => writer.finish blobId (.error message)
      | .ok (some existing) => writer.finish blobId (.ok existing.blobId)
      | .ok none => writer.goto blobId (.store contentId plaintextBytes)
  | .store contentId plaintextBytes =>
      match put around.storeFault writer.files blobId plaintextBytes with
      | (.error message, files) =>
          { writer with files := files }.finish blobId (.error message)
      | (.ok path, files) =>
          { writer with files := files }.goto blobId (.insert {
            blobId := blobId
            storagePath := path
            sizeBytes := plaintextBytes.length
            contentHash := contentId
            createdAtMs := around.nowMs
            compressedSize := none })
  | .insert record =>
      match insertBlob around.repoFault writer.records record with
      | .ok records =>
          { writer with records := records }.finish blobId (.ok blobId)
      | .error message =>
          writer.goto blobId (.recheck record.contentHash message)
  | .recheck contentId insertErr =>
      match findByHash around.repoFault writer.records contentId with
      | .error message => writer.finish blobId (.error message)
      | .ok (some existing) => writer.finish blobId (.ok existing.blobId)
      | .ok none => writer.finish blobId (.error insertErr)
  | .storePath =>
      match putFromPath blake3 around.storeFault writer.files blobId
          around.source with
      | (.error message, files) =>
          { writer with files := files }.goto blobId (.discard (.error message))
      | (.ok stored, files) =>
          { writer with files := files }.goto blobId (.dedup stored)
  | .dedup stored =>
      match findByHash around.repoFault writer.records stored.contentHash with
      | .error message => writer.goto blobId (.discard (.error message))
      | .ok (some existing) =>
          writer.goto blobId (.discard (.ok existing.blobId))
      | .ok none =>
          writer.goto blobId (.insertPath {
            blobId := blobId
            storagePath := stored.storagePath
            sizeBytes := stored.sizeBytes
            contentHash := stored.contentHash
            createdAtMs := around.nowMs
            compressedSize := stored.compressedSize })
  | .insertPath record =>
      match insertBlob around.repoFault writer.records record with
      | .ok records =>
          { writer with records := records }.finish blobId (.ok blobId)
      | .error message =>
          writer.goto blobId (.recheckPath record.contentHash message)
  | .recheckPath contentHash insertErr =>
      match findByHash around.repoFault writer.records contentHash with
      | .ok (some existing) =>
          writer.goto blobId (.discard (.ok existing.blobId))
      | _ => writer.goto blobId (.discard (.error insertErr))
  | .discard result =>
      { writer with
        files := (delete around.storeFault writer.files blobId).2 }.finish
          blobId result

end Steps

/-- A call begins, under an id that no call has drawn, or goes on. -/
inductive Action where
  | writeIfAbsent (blobId : String) (contentId : Digest)
      (plaintextBytes : List UInt8)
  | ingestPath (blobId : String)
  | advance (blobId : String) (around : Surroundings)

def step (blake3 : Blake3) (writer : Writer) : Action → Option Writer
  | .writeIfAbsent blobId contentId plaintextBytes =>
      if blobId ∈ writer.drawn then none
      else some ({ writer with drawn := blobId :: writer.drawn }.goto blobId
        (.lookup contentId plaintextBytes))
  | .ingestPath blobId =>
      if blobId ∈ writer.drawn then none
      else some ({ writer with drawn := blobId :: writer.drawn }.goto blobId
        .storePath)
  | .advance blobId around =>
      (writer.calls.find blobId).map (advance blake3 writer blobId around)

/-- The callers of `write_if_absent` pass the hash of the bytes. -/
def HashesItsBytes (blake3 : Blake3) (_ : Writer) : Action → Prop
  | .writeIfAbsent _ contentId plaintextBytes =>
      contentId = blake3 plaintextBytes
  | _ => True

variable {task : Task} {record : Blob}

section Interleavings

/-! ## What holds between the steps -/

def Writer.Recorded (writer : Writer) (blobId : String) : Prop :=
  ∃ record ∈ writer.records, record.blobId = blobId

/-- What a call has under its name in the store. -/
def Task.Holds (blake3 : Blake3) (blobId : String)
    (file : Option (List UInt8)) : Task → Prop
  | .lookup contentId bytes => file = none ∧ contentId = blake3 bytes
  | .store contentId bytes => file = none ∧ contentId = blake3 bytes
  | .insert record => record.blobId = blobId ∧
      ∃ bytes, file = some bytes ∧ record.contentHash = blake3 bytes
  | .recheck _ _ => file ≠ none
  | .storePath => file = none
  | .dedup stored =>
      ∃ bytes, file = some bytes ∧ stored.contentHash = blake3 bytes
  | .insertPath record => record.blobId = blobId ∧
      ∃ bytes, file = some bytes ∧ record.contentHash = blake3 bytes
  | .recheckPath _ _ => True
  | .discard _ => True

structure Sound (blake3 : Blake3) (writer : Writer) : Prop where
  oneRecord : (writer.records.map Blob.contentHash).Nodup
  stored : ∀ record ∈ writer.records, ∃ bytes,
    writer.files.find record.blobId = some bytes ∧
      record.contentHash = blake3 bytes
  untouched : ∀ blobId, blobId ∉ writer.drawn →
    writer.files.find blobId = none ∧ writer.calls.find blobId = none ∧
      ¬ writer.Recorded blobId
  pending : ∀ blobId task, writer.calls.find blobId = some task →
    ¬ writer.Recorded blobId ∧
      task.Holds blake3 blobId (writer.files.find blobId)

theorem sound_empty (blake3 : Blake3) : Sound blake3 Writer.empty where
  oneRecord := List.nodup_nil
  stored record member := absurd member List.not_mem_nil
  untouched blobId _ := by
    refine ⟨Table.find_empty, Table.find_empty, ?_⟩
    rintro ⟨record, member, _⟩
    exact absurd member List.not_mem_nil
  pending blobId task called := by
    have nothing : Writer.empty.calls.find blobId = none := Table.find_empty
    rw [nothing] at called
    cases called

/-- A step of one call: what else there is stays, and the call's own task and
file go together. -/
structure Advanced (blake3 : Blake3) (blobId : String)
    (before after : Writer) : Prop where
  sameDrawn : after.drawn = before.drawn
  filesElsewhere : ∀ other, other ≠ blobId →
    after.files.find other = before.files.find other
  callsElsewhere : ∀ other, other ≠ blobId →
    after.calls.find other = before.calls.find other
  holds : ∀ task, after.calls.find blobId = some task →
    task.Holds blake3 blobId (after.files.find blobId)

variable {blake3 : Blake3} {before after : Writer} {blobId : String}

theorem Advanced.drawn_of_called (sound : Sound blake3 before)
    (called : before.calls.find blobId = some task) :
    blobId ∈ before.drawn := by
  by_contra undrawn
  have nothing := (sound.untouched blobId undrawn).2.1
  rw [nothing] at called
  cases called

theorem Advanced.keeps (advanced : Advanced blake3 blobId before after)
    (sound : Sound blake3 before)
    (called : before.calls.find blobId = some task)
    (sameRecords : after.records = before.records) : Sound blake3 after := by
  have sameRecorded : ∀ other,
      after.Recorded other ↔ before.Recorded other := by
    intro other
    unfold Writer.Recorded
    rw [sameRecords]
  have unrecorded := (sound.pending blobId task called).1
  constructor
  · rw [sameRecords]
    exact sound.oneRecord
  · intro record member
    rw [sameRecords] at member
    have different : record.blobId ≠ blobId := by
      intro same
      exact unrecorded ⟨record, member, same⟩
    rw [advanced.filesElsewhere _ different]
    exact sound.stored record member
  · intro other undrawn
    rw [advanced.sameDrawn] at undrawn
    have different : other ≠ blobId := by
      rintro rfl
      exact undrawn (Advanced.drawn_of_called sound called)
    rw [advanced.filesElsewhere _ different,
      advanced.callsElsewhere _ different, sameRecorded]
    exact sound.untouched other undrawn
  · intro other otherTask otherCalled
    rw [sameRecorded]
    by_cases same : other = blobId
    · subst same
      exact ⟨unrecorded, advanced.holds otherTask otherCalled⟩
    · rw [advanced.callsElsewhere _ same] at otherCalled
      rw [advanced.filesElsewhere _ same]
      exact sound.pending other otherTask otherCalled

theorem Advanced.records {bytes : List UInt8}
    (advanced : Advanced blake3 blobId before after)
    (sound : Sound blake3 before)
    (called : before.calls.find blobId = some task)
    (isRecords : after.records = before.records ++ [record])
    (isOwn : record.blobId = blobId)
    (isFile : after.files.find blobId = some bytes)
    (isHash : record.contentHash = blake3 bytes)
    (isNew : record.contentHash ∉ before.records.map Blob.contentHash)
    (isDone : after.calls.find blobId = none) : Sound blake3 after := by
  have unrecorded := (sound.pending blobId task called).1
  have recordedElsewhere : ∀ other, other ≠ blobId →
      (after.Recorded other ↔ before.Recorded other) := by
    intro other different
    unfold Writer.Recorded
    rw [isRecords]
    constructor
    · rintro ⟨found, member, isOther⟩
      rcases List.mem_append.mp member with inBefore | isLast
      · exact ⟨found, inBefore, isOther⟩
      · rw [List.mem_singleton.mp isLast, isOwn] at isOther
        exact absurd isOther.symm different
    · rintro ⟨found, member, isOther⟩
      exact ⟨found, List.mem_append_left _ member, isOther⟩
  constructor
  · rw [isRecords, List.map_append, List.map_singleton]
    rw [List.nodup_append]
    refine ⟨sound.oneRecord, List.nodup_singleton _, ?_⟩
    intro hash inBefore other isLast
    rw [List.mem_singleton.mp isLast]
    rintro rfl
    exact isNew inBefore
  · intro found member
    rw [isRecords] at member
    rcases List.mem_append.mp member with inBefore | isLast
    · have different : found.blobId ≠ blobId := by
        intro same
        exact unrecorded ⟨found, inBefore, same⟩
      rw [advanced.filesElsewhere _ different]
      exact sound.stored found inBefore
    · rw [List.mem_singleton.mp isLast, isOwn]
      exact ⟨bytes, isFile, isHash⟩
  · intro other undrawn
    rw [advanced.sameDrawn] at undrawn
    have different : other ≠ blobId := by
      rintro rfl
      exact undrawn (Advanced.drawn_of_called sound called)
    rw [advanced.filesElsewhere _ different,
      advanced.callsElsewhere _ different, recordedElsewhere _ different]
    exact sound.untouched other undrawn
  · intro other otherTask otherCalled
    by_cases same : other = blobId
    · subst same
      rw [isDone] at otherCalled
      cases otherCalled
    · rw [advanced.callsElsewhere _ same] at otherCalled
      rw [advanced.filesElsewhere _ same, recordedElsewhere _ same]
      exact sound.pending other otherTask otherCalled

/-! ## Files that nobody refers to -/

/-- The calls that discard what they have stored and nobody has recorded. -/
def Task.CleansUp : Task → Prop
  | .recheck _ _ => False
  | _ => True

/-- A file has a record, or a call that records or discards it. -/
def Writer.TidyAt (writer : Writer) (blobId : String) : Prop :=
  writer.files.find blobId = none ∨ writer.Recorded blobId ∨
    ∃ task, writer.calls.find blobId = some task ∧ task.CleansUp

def Writer.Tidy (writer : Writer) : Prop :=
  ∀ blobId, writer.TidyAt blobId

/-- What one step of a call comes to; `here` says when it leaves its own file
in order. -/
structure Result (blake3 : Blake3) (blobId : String) (before after : Writer)
    (here : Prop) : Prop where
  sound : Sound blake3 after
  elsewhere : ∀ other, other ≠ blobId →
    (after.TidyAt other ↔ before.TidyAt other)
  own : after.TidyAt blobId ↔ here

theorem tidyAt_called (sound : Sound blake3 before)
    (called : before.calls.find blobId = some task) :
    before.TidyAt blobId ↔ before.files.find blobId = none ∨ task.CleansUp := by
  have unrecorded := (sound.pending blobId task called).1
  unfold Writer.TidyAt
  rw [called]
  constructor
  · rintro (absent | isRecorded | ⟨other, same, cleans⟩)
    · exact Or.inl absent
    · exact absurd isRecorded unrecorded
    · cases same
      exact Or.inr cleans
  · rintro (absent | cleans)
    · exact Or.inl absent
    · exact Or.inr (Or.inr ⟨task, rfl, cleans⟩)

theorem Result.of_iff {here there : Prop}
    (result : Result blake3 blobId before after here) (same : here ↔ there) :
    Result blake3 blobId before after there :=
  ⟨result.sound, result.elsewhere, result.own.trans same⟩

theorem result_goto {files : BlobFiles} (next : Task)
    (sound : Sound blake3 before)
    (called : before.calls.find blobId = some task)
    (same : ∀ other, other ≠ blobId →
      files.find other = before.files.find other)
    (holds : next.Holds blake3 blobId (files.find blobId)) :
    Result blake3 blobId before
      ({ before with files := files }.goto blobId next)
      (files.find blobId = none ∨ next.CleansUp) := by
  have isCalled : ({ before with files := files }.goto blobId
      next).calls.find blobId = some next := Table.find_put_self
  have callsElsewhere : ∀ other, other ≠ blobId →
      ({ before with files := files }.goto blobId next).calls.find other =
        before.calls.find other :=
    fun other different => Table.find_put_of_ne different
  have advanced : Advanced blake3 blobId before
      ({ before with files := files }.goto blobId next) := by
    refine ⟨rfl, same, callsElsewhere, ?_⟩
    intro found isFound
    rw [isCalled] at isFound
    cases isFound
    exact holds
  have stays := advanced.keeps sound called rfl
  refine ⟨stays, ?_, tidyAt_called stays isCalled⟩
  intro other different
  unfold Writer.TidyAt
  rw [callsElsewhere other different]
  show files.find other = none ∨ before.Recorded other ∨ _ ↔ _
  rw [same other different]

/-- The call returns without a record. -/
theorem result_finish {files : BlobFiles} (result : Except String String)
    (sound : Sound blake3 before)
    (called : before.calls.find blobId = some task)
    (same : ∀ other, other ≠ blobId →
      files.find other = before.files.find other) :
    Result blake3 blobId before
      ({ before with files := files }.finish blobId result)
      (files.find blobId = none) := by
  have isDone : ({ before with files := files }.finish blobId
      result).calls.find blobId = none := Table.find_remove_self
  have callsElsewhere : ∀ other, other ≠ blobId →
      ({ before with files := files }.finish blobId
        result).calls.find other = before.calls.find other := by
    intro other different
    show (before.calls.remove blobId).find other = _
    rw [Table.find_remove, if_neg different]
  have advanced : Advanced blake3 blobId before
      ({ before with files := files }.finish blobId result) := by
    refine ⟨rfl, same, callsElsewhere, ?_⟩
    intro found isFound
    rw [isDone] at isFound
    cases isFound
  refine ⟨advanced.keeps sound called rfl, ?_, ?_⟩
  · intro other different
    unfold Writer.TidyAt
    rw [callsElsewhere other different]
    show files.find other = none ∨ before.Recorded other ∨ _ ↔ _
    rw [same other different]
  · have unrecorded := (sound.pending blobId task called).1
    unfold Writer.TidyAt
    rw [isDone]
    constructor
    · rintro (absent | isRecorded | ⟨other, nothing, _⟩)
      · exact absent
      · exact absurd isRecorded unrecorded
      · cases nothing
    · exact Or.inl

theorem result_record {bytes : List UInt8} (result : Except String String)
    (sound : Sound blake3 before)
    (called : before.calls.find blobId = some task)
    (isOwn : record.blobId = blobId)
    (isFile : before.files.find blobId = some bytes)
    (isHash : record.contentHash = blake3 bytes)
    (isNew : record.contentHash ∉ before.records.map Blob.contentHash) :
    Result blake3 blobId before
      ({ before with records := before.records ++ [record] }.finish blobId
        result) True := by
  have isDone : ({ before with records := before.records ++ [record] }.finish
      blobId result).calls.find blobId = none := Table.find_remove_self
  have callsElsewhere : ∀ other, other ≠ blobId →
      ({ before with records := before.records ++ [record] }.finish blobId
        result).calls.find other = before.calls.find other := by
    intro other different
    show (before.calls.remove blobId).find other = _
    rw [Table.find_remove, if_neg different]
  have advanced : Advanced blake3 blobId before
      ({ before with records := before.records ++ [record] }.finish blobId
        result) := by
    refine ⟨rfl, fun _ _ => rfl, callsElsewhere, ?_⟩
    intro found isFound
    rw [isDone] at isFound
    cases isFound
  refine ⟨advanced.records sound called rfl isOwn isFile isHash isNew isDone,
    ?_, ?_⟩
  · intro other different
    have sameRecorded : (∃ found ∈ before.records ++ [record],
        found.blobId = other) ↔ before.Recorded other := by
      constructor
      · rintro ⟨found, member, isOther⟩
        rcases List.mem_append.mp member with inBefore | isLast
        · exact ⟨found, inBefore, isOther⟩
        · rw [List.mem_singleton.mp isLast, isOwn] at isOther
          exact absurd isOther.symm different
      · rintro ⟨found, member, isOther⟩
        exact ⟨found, List.mem_append_left _ member, isOther⟩
    unfold Writer.TidyAt
    rw [callsElsewhere other different]
    show before.files.find other = none ∨ (∃ found ∈ before.records ++ [record],
      found.blobId = other) ∨ _ ↔ _
    rw [sameRecorded]
  · apply iff_of_true _ trivial
    exact Or.inr (Or.inl ⟨record, List.mem_append_right _
      (List.mem_singleton_self record), isOwn⟩)

/-! ## The steps that leave a file behind -/

/-- No write of `write_if_absent` fails with bytes in the store, its insert
finds neither a fault nor a record of its content, and no removal of a file
fails. -/
def CleanTask (writer : Writer) (blobId : String) (around : Surroundings) :
    Task → Prop
  | .store _ _ => ∀ failed, around.storeFault = some failed → failed.left = none
  | .insert record => around.repoFault = none ∧
      record.contentHash ∉ writer.records.map Blob.contentHash
  | .discard _ => around.storeFault = none ∨ writer.files.find blobId = none
  | _ => True

def Clean (writer : Writer) : Action → Prop
  | .advance blobId around => ∀ task, writer.calls.find blobId = some task →
      CleanTask writer blobId around task
  | _ => True

theorem insertBlob_eq (fault : Option String) {records : List Blob}
    (isNew : record.blobId ∉ records.map Blob.blobId) :
    (fault = none ∧ record.contentHash ∉ records.map Blob.contentHash ∧
      insertBlob fault records record = .ok (records ++ [record])) ∨
    (¬ (fault = none ∧ record.contentHash ∉ records.map Blob.contentHash) ∧
      ∃ message, insertBlob fault records record = .error message) := by
  cases fault with
  | some message =>
      refine Or.inr ⟨?_, message, rfl⟩
      rintro ⟨none, _⟩
      cases none
  | none =>
      by_cases known : record.contentHash ∈ records.map Blob.contentHash
      · refine Or.inr ⟨fun clean => clean.2 known,
          "UNIQUE constraint failed: blob.content_hash", ?_⟩
        rw [insertBlob, if_neg isNew, if_pos known]
      · refine Or.inl ⟨rfl, known, ?_⟩
        rw [insertBlob, if_neg isNew, if_neg known]

theorem not_mem_of_unrecorded {writer : Writer}
    (unrecorded : ¬ writer.Recorded record.blobId) :
    record.blobId ∉ writer.records.map Blob.blobId := by
  intro member
  rcases List.mem_map.mp member with ⟨found, inRecords, same⟩
  exact unrecorded ⟨found, inRecords, same⟩

variable {around : Surroundings}

theorem advance_spec (sound : Sound blake3 before)
    (called : before.calls.find blobId = some task) :
    Result blake3 blobId before (advance blake3 before blobId around task)
      (before.TidyAt blobId ∧ CleanTask before blobId around task) := by
  rcases sound.pending blobId task called with ⟨unrecorded, holds⟩
  have tidy := tidyAt_called sound called
  have unchanged : ∀ other, other ≠ blobId →
      before.files.find other = before.files.find other := fun _ _ => rfl
  cases task with
  | lookup contentId plaintextBytes =>
      have clean : before.TidyAt blobId ∧ CleanTask before blobId around
          (.lookup contentId plaintextBytes) :=
        ⟨tidy.mpr (Or.inl holds.1), trivial⟩
      cases isFound : findByHash around.repoFault before.records contentId with
      | error message =>
          simp only [advance, isFound]
          exact (result_finish _ sound called unchanged).of_iff
            (iff_of_true holds.1 clean)
      | ok found =>
          cases found with
          | some existing =>
              simp only [advance, isFound]
              exact (result_finish _ sound called unchanged).of_iff
                (iff_of_true holds.1 clean)
          | none =>
              simp only [advance, isFound]
              exact (result_goto (.store contentId plaintextBytes) sound called
                unchanged holds).of_iff (iff_of_true (Or.inl holds.1) clean)
  | store contentId plaintextBytes =>
      have isTidy := tidy.mpr (Or.inl holds.1)
      cases isFault : around.storeFault with
      | none =>
          simp only [advance, put, isFault]
          have same : ∀ other, other ≠ blobId →
              (before.files.put blobId plaintextBytes).find other =
                before.files.find other :=
            fun other different => Table.find_put_of_ne different
          refine (result_goto (.insert _) sound called same ?_).of_iff
            (iff_of_true (Or.inr trivial) ⟨isTidy, ?_⟩)
          · exact ⟨rfl, plaintextBytes, Table.find_put_self, holds.2⟩
          · intro failed isFailed
            rw [isFault] at isFailed
            cases isFailed
      | some failed =>
          simp only [advance, put, isFault]
          refine (result_finish _ sound called
            fun other different => find_leave_of_ne different).of_iff ?_
          rw [find_leave_self holds.1]
          constructor
          · intro nothing
            refine ⟨isTidy, ?_⟩
            intro other isFailed
            rw [isFault] at isFailed
            cases isFailed
            exact nothing
          · rintro ⟨_, clean⟩
            exact clean failed isFault
  | insert record =>
      rcases holds with ⟨isOwn, bytes, isFile, isHash⟩
      have isTidy := tidy.mpr (Or.inr trivial)
      have fresh : record.blobId ∉ before.records.map Blob.blobId :=
        not_mem_of_unrecorded (isOwn.symm ▸ unrecorded)
      rcases insertBlob_eq around.repoFault fresh with
        ⟨noFault, isNew, inserted⟩ | ⟨refused, message, failed⟩
      · simp only [advance, inserted]
        exact (result_record _ sound called isOwn isFile isHash isNew).of_iff
          (iff_of_true trivial ⟨isTidy, noFault, isNew⟩)
      · simp only [advance, failed]
        have present : before.files.find blobId ≠ none := by
          rw [isFile]
          exact Option.some_ne_none bytes
        refine (result_goto (.recheck record.contentHash message) sound called
          unchanged present).of_iff (iff_of_false ?_ ?_)
        · rintro (absent | never)
          · exact present absent
          · exact never
        · rintro ⟨_, clean⟩
          exact refused clean
  | recheck contentId insertErr =>
      have untidy : ¬ (before.TidyAt blobId ∧ CleanTask before blobId around
          (.recheck contentId insertErr)) := by
        rintro ⟨isTidy, _⟩
        rcases tidy.mp isTidy with absent | never
        · exact holds absent
        · exact never
      cases isFound : findByHash around.repoFault before.records contentId with
      | error message =>
          simp only [advance, isFound]
          exact (result_finish _ sound called unchanged).of_iff
            (iff_of_false holds untidy)
      | ok found =>
          cases found with
          | some existing =>
              simp only [advance, isFound]
              exact (result_finish _ sound called unchanged).of_iff
                (iff_of_false holds untidy)
          | none =>
              simp only [advance, isFound]
              exact (result_finish _ sound called unchanged).of_iff
                (iff_of_false holds untidy)
  | storePath =>
      have clean : before.TidyAt blobId ∧
          CleanTask before blobId around .storePath :=
        ⟨tidy.mpr (Or.inr trivial), trivial⟩
      cases isFault : around.storeFault with
      | none =>
          simp only [advance, putFromPath, isFault]
          have same : ∀ other, other ≠ blobId →
              (before.files.put blobId around.source).find other =
                before.files.find other :=
            fun other different => Table.find_put_of_ne different
          refine (result_goto (.dedup _) sound called same ?_).of_iff
            (iff_of_true (Or.inr trivial) clean)
          exact ⟨around.source, Table.find_put_self, rfl⟩
      | some failed =>
          simp only [advance, putFromPath, isFault]
          exact (result_goto (.discard _) sound called
            (fun other different => find_leave_of_ne different)
            trivial).of_iff (iff_of_true (Or.inr trivial) clean)
  | dedup stored =>
      have clean : before.TidyAt blobId ∧
          CleanTask before blobId around (.dedup stored) :=
        ⟨tidy.mpr (Or.inr trivial), trivial⟩
      cases isFound :
          findByHash around.repoFault before.records stored.contentHash with
      | error message =>
          simp only [advance, isFound]
          exact (result_goto (.discard _) sound called unchanged trivial).of_iff
            (iff_of_true (Or.inr trivial) clean)
      | ok found =>
          cases found with
          | some existing =>
              simp only [advance, isFound]
              exact (result_goto (.discard _) sound called unchanged
                trivial).of_iff (iff_of_true (Or.inr trivial) clean)
          | none =>
              simp only [advance, isFound]
              refine (result_goto (.insertPath _) sound called unchanged
                ?_).of_iff (iff_of_true (Or.inr trivial) clean)
              exact ⟨rfl, holds⟩
  | insertPath record =>
      rcases holds with ⟨isOwn, bytes, isFile, isHash⟩
      have clean : before.TidyAt blobId ∧
          CleanTask before blobId around (.insertPath record) :=
        ⟨tidy.mpr (Or.inr trivial), trivial⟩
      have fresh : record.blobId ∉ before.records.map Blob.blobId :=
        not_mem_of_unrecorded (isOwn.symm ▸ unrecorded)
      rcases insertBlob_eq around.repoFault fresh with
        ⟨_, isNew, inserted⟩ | ⟨_, message, failed⟩
      · simp only [advance, inserted]
        exact (result_record _ sound called isOwn isFile isHash isNew).of_iff
          (iff_of_true trivial clean)
      · simp only [advance, failed]
        exact (result_goto (.recheckPath _ _) sound called unchanged
          trivial).of_iff
          (iff_of_true (Or.inr trivial) clean)
  | recheckPath contentHash insertErr =>
      have clean : before.TidyAt blobId ∧ CleanTask before blobId around
          (.recheckPath contentHash insertErr) :=
        ⟨tidy.mpr (Or.inr trivial), trivial⟩
      cases isFound :
          findByHash around.repoFault before.records contentHash with
      | error message =>
          simp only [advance, isFound]
          exact (result_goto (.discard _) sound called unchanged trivial).of_iff
            (iff_of_true (Or.inr trivial) clean)
      | ok found =>
          cases found with
          | some existing =>
              simp only [advance, isFound]
              exact (result_goto (.discard _) sound called unchanged
                trivial).of_iff (iff_of_true (Or.inr trivial) clean)
          | none =>
              simp only [advance, isFound]
              exact (result_goto (.discard _) sound called unchanged
                trivial).of_iff (iff_of_true (Or.inr trivial) clean)
  | discard result =>
      have isTidy := tidy.mpr (Or.inr trivial)
      cases isFault : around.storeFault with
      | none =>
          simp only [advance, delete, isFault]
          have same : ∀ other, other ≠ blobId →
              (before.files.remove blobId).find other =
                before.files.find other := by
            intro other different
            rw [Table.find_remove, if_neg different]
          exact (result_finish _ sound called same).of_iff
            (iff_of_true Table.find_remove_self ⟨isTidy, Or.inl isFault⟩)
      | some failed =>
          simp only [advance, delete, isFault]
          refine (result_finish _ sound called unchanged).of_iff ?_
          constructor
          · intro absent
            exact ⟨isTidy, Or.inr absent⟩
          · rintro ⟨_, noFault | absent⟩
            · rw [isFault] at noFault
              cases noFault
            · exact absent

theorem begins (task : Task) (sound : Sound blake3 before)
    (undrawn : blobId ∉ before.drawn) (holds : task.Holds blake3 blobId none)
    (cleans : task.CleansUp) :
    let after :=
      { before with drawn := blobId :: before.drawn }.goto blobId task
    Sound blake3 after ∧ (after.Tidy ↔ before.Tidy) := by
  intro after
  rcases sound.untouched blobId undrawn with ⟨absent, uncalled, unrecorded⟩
  have isCalled : after.calls.find blobId = some task := Table.find_put_self
  have elsewhere : ∀ other, other ≠ blobId →
      after.calls.find other = before.calls.find other :=
    fun other different => Table.find_put_of_ne different
  constructor
  · constructor
    · exact sound.oneRecord
    · exact sound.stored
    · intro other otherUndrawn
      have different : other ≠ blobId := by
        rintro rfl
        exact otherUndrawn List.mem_cons_self
      rw [elsewhere other different]
      exact sound.untouched other
        fun drawn => otherUndrawn (List.mem_cons_of_mem _ drawn)
    · intro other otherTask otherCalled
      by_cases same : other = blobId
      · subst same
        rw [isCalled] at otherCalled
        cases otherCalled
        refine ⟨unrecorded, ?_⟩
        show task.Holds blake3 other (before.files.find other)
        rw [absent]
        exact holds
      · rw [elsewhere other same] at otherCalled
        exact sound.pending other otherTask otherCalled
  · apply forall_congr'
    intro other
    by_cases same : other = blobId
    · subst same
      exact iff_of_true (Or.inr (Or.inr ⟨task, isCalled, cleans⟩))
        (Or.inl absent)
    · unfold Writer.TidyAt
      rw [elsewhere other same]
      exact Iff.rfl

theorem step_spec {action : Action} (sound : Sound blake3 before)
    (hashes : HashesItsBytes blake3 before action)
    (stepped : step blake3 before action = some after) :
    Sound blake3 after ∧ (after.Tidy ↔ before.Tidy ∧ Clean before action) := by
  cases action with
  | writeIfAbsent blobId contentId plaintextBytes =>
      by_cases drawn : blobId ∈ before.drawn
      · rw [step, if_pos drawn] at stepped
        cases stepped
      · rw [step, if_neg drawn] at stepped
        cases stepped
        have begun := begins (.lookup contentId plaintextBytes) sound drawn
          ⟨rfl, hashes⟩ trivial
        exact ⟨begun.1, begun.2.trans (and_iff_left trivial).symm⟩
  | ingestPath blobId =>
      by_cases drawn : blobId ∈ before.drawn
      · rw [step, if_pos drawn] at stepped
        cases stepped
      · rw [step, if_neg drawn] at stepped
        cases stepped
        have begun := begins .storePath sound drawn rfl trivial
        exact ⟨begun.1, begun.2.trans (and_iff_left trivial).symm⟩
  | advance blobId around =>
      rcases Option.map_eq_some_iff.mp stepped with ⟨task, called, rfl⟩
      have result : Result blake3 blobId before
          (advance blake3 before blobId around task)
          (before.TidyAt blobId ∧ CleanTask before blobId around task) :=
        advance_spec sound called
      refine ⟨result.sound, ?_⟩
      have isClean : Clean before (.advance blobId around) ↔
          CleanTask before blobId around task := by
        constructor
        · intro clean
          exact clean task called
        · intro clean other isOther
          rw [called] at isOther
          cases isOther
          exact clean
      rw [isClean]
      constructor
      · intro tidy
        have own := result.own.mp (tidy blobId)
        refine ⟨?_, own.2⟩
        intro other
        by_cases same : other = blobId
        · rw [same]
          exact own.1
        · exact (result.elsewhere other same).mp (tidy other)
      · rintro ⟨tidy, clean⟩ other
        by_cases same : other = blobId
        · rw [same]
          exact result.own.mpr ⟨tidy blobId, clean⟩
        · exact (result.elsewhere other same).mpr (tidy other)

theorem tidy_empty : Writer.empty.Tidy :=
  fun _ => Or.inl Table.find_empty

/-! ## What a run leaves in the store -/

/-- One record for each content. -/
def NoDuplicate (writer : Writer) : Prop :=
  (writer.records.map Blob.contentHash).Nodup

/-- The file of every record is in the store and hashes to it. -/
def BytesExist (blake3 : Blake3) (writer : Writer) : Prop :=
  ∀ record ∈ writer.records, ∃ bytes,
    writer.files.find record.blobId = some bytes ∧
      record.contentHash = blake3 bytes

/-- Every file is one that a record refers to. -/
def NoOrphan (writer : Writer) : Prop :=
  ∀ blobId bytes, writer.files.find blobId = some bytes →
    ∃ record ∈ writer.records, record.blobId = blobId

theorem noOrphan_iff_tidy {writer : Writer} (idle : writer.calls = ∅) :
    NoOrphan writer ↔ writer.Tidy := by
  have uncalled : ∀ blobId, writer.calls.find blobId = none := by
    intro blobId
    rw [idle]
    exact Table.find_empty
  constructor
  · intro noOrphan blobId
    cases isFile : writer.files.find blobId with
    | none => exact Or.inl isFile
    | some bytes => exact Or.inr (Or.inl (noOrphan blobId bytes isFile))
  · intro tidy blobId bytes isFile
    rcases tidy blobId with absent | isRecorded | ⟨task, called, _⟩
    · rw [absent] at isFile
      cases isFile
    · exact isRecorded
    · rw [uncalled blobId] at called
      cases called

/-- In any interleaving there is one record for each content, with its bytes in
the store; and when the calls have returned, no file is left without a record
exactly if every step was clean. -/
theorem leavesNoOrphan_iff (blake3 : Blake3) {actions : List Action}
    {writer : Writer}
    (hashes :
      Guarded (step blake3) (HashesItsBytes blake3) Writer.empty actions)
    (ran : execute (step blake3) Writer.empty actions = some writer) :
    NoDuplicate writer ∧ BytesExist blake3 writer ∧
      (writer.calls = ∅ →
        (NoOrphan writer ↔
          Guarded (step blake3) Clean Writer.empty actions)) := by
  have sound : Sound blake3 writer :=
    (Run.ofExecute hashes ran).preserves (sound_empty blake3)
      fun _ _ _ sound here stepped => (step_spec sound here stepped).1
  refine ⟨sound.oneRecord, sound.stored, ?_⟩
  intro idle
  rw [noOrphan_iff_tidy idle]
  have stays : writer.Tidy ↔ Writer.empty.Tidy ∧
      Guarded (step blake3) Clean Writer.empty actions :=
    execute_iff_guarded
      (fun _ _ _ sound here stepped => (step_spec sound here stepped).1)
      (fun _ _ _ sound here stepped => (step_spec sound here stepped).2)
      (sound_empty blake3) hashes ran
  rw [and_iff_right tidy_empty] at stays
  exact stays

end Interleavings

namespace Sample

def blake3 : Blake3 := fun bytes =>
  ⟨(bytes ++ List.replicate 32 0).take 32, length_filled bytes⟩

def noFault : Surroundings := ⟨none, none, [7], 0⟩

def bytes : List UInt8 := [1, 2, 3]

def ingests : List Action :=
  [.ingestPath "a", .ingestPath "b",
    .advance "a" noFault, .advance "a" noFault, .advance "a" noFault,
    .advance "b" noFault, .advance "b" noFault, .advance "b" noFault]

/-- Two writers of the same bytes that both find it absent. -/
def race : List Action :=
  [.writeIfAbsent "a" (blake3 bytes) bytes,
    .writeIfAbsent "b" (blake3 bytes) bytes,
    .advance "a" noFault, .advance "b" noFault,
    .advance "a" noFault, .advance "b" noFault,
    .advance "a" noFault, .advance "b" noFault, .advance "b" noFault]

end Sample

theorem leavesNoOrphan_iff_ingests : ∃ writer,
    execute (step Sample.blake3) Writer.empty Sample.ingests = some writer ∧
      writer.files.find "b" = none ∧
      NoDuplicate writer ∧ BytesExist Sample.blake3 writer ∧
      (writer.calls = ∅ → (NoOrphan writer ↔
        Guarded (step Sample.blake3) Clean Writer.empty Sample.ingests)) :=
  ⟨_, rfl, rfl, leavesNoOrphan_iff Sample.blake3
    ⟨trivial, trivial, trivial, trivial, trivial, trivial, trivial, trivial,
      trivial⟩ rfl⟩

/-- The second writer returns the record of the first, and leaves the file that
it has stored. -/
theorem lostRace_leavesOrphan : ∃ writer,
    Guarded (step Sample.blake3) (HashesItsBytes Sample.blake3) Writer.empty
      Sample.race ∧
    execute (step Sample.blake3) Writer.empty Sample.race = some writer ∧
      writer.calls = ∅ ∧ ¬ NoOrphan writer := by
  refine ⟨_, ⟨rfl, rfl, trivial, trivial, trivial, trivial, trivial, trivial,
    trivial, trivial⟩, rfl, rfl, ?_⟩
  intro noOrphan
  rcases noOrphan "b" Sample.bytes rfl with ⟨record, member, isOther⟩
  rw [List.mem_singleton.mp member] at isOther
  exact absurd isOther (by decide)

end OpenClipboard.BlobWriter
