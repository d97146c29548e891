import OpenClipboard.SwitchSpace.Captures
import OpenClipboard.SwitchSpace.Coverage

/-!
# Captures while a switch runs

Rows that hold inline data when a run lists them are backed up, and after the
key change each row reads as captured or is backed up until its record is
swapped in.  A row that is inserted between the listing and the key change is
neither, so it is lost.  A record is never written onto a row that has moved
on.
-/

namespace OpenClipboard.SwitchSpace

open OpenClipboard RepresentationTable Transition

section Invariant

variable (cipher : Sealing MasterKey Nonce) (blobFiles : BlobFileCodec)

/-- Every row's inline data reads as what was captured. -/
def Device.SoundUnder (device : Device) (masterKey : MasterKey) : Prop :=
  ∀ key bytes, device.representations.readMainInlineData key = some bytes →
    device.ReadsCaptured cipher masterKey key

def Device.BacksCaptured (device : Device) (runId : String) (key : RepKey) :
    Prop :=
  ∃ plaintext, device.capturedInline key = some plaintext ∧
    Backs cipher device.backup device.migrationKeys runId key plaintext

/-- A record that opens under the run's key opens to what was captured. -/
def Device.TrueRecords (device : Device) (runId : String) : Prop :=
  ∃ migrationKey ∈ device.drawnKeys,
    device.migrationKeys.find runId = some migrationKey ∧
    ∀ key record plaintext, device.backup.find key = some record →
      cipher.decrypt migrationKey record.ciphertext (aadOf key) =
        some plaintext →
      device.capturedInline key = some plaintext

/-- Every row with inline data is backed up but for some. -/
def Device.BacksRowsExcept (device : Device) (runId : String)
    (overdue : List RepKey) : Prop :=
  ∀ key bytes, device.representations.readMainInlineData key = some bytes →
    key ∈ overdue ∨ device.BacksCaptured cipher runId key

def Device.ReadsOrBacks (device : Device) (masterKey : MasterKey)
    (runId : String) : Prop :=
  ∀ key bytes, device.representations.readMainInlineData key = some bytes →
    device.ReadsCaptured cipher masterKey key ∨
      device.BacksCaptured cipher runId key

/-- Every row with inline data reads as captured or awaits its swap. -/
def Device.ReadsOrAwaits (device : Device) (masterKey : MasterKey)
    (rest : List (RepKey × MigrationRecord)) : Prop :=
  ∀ key bytes, device.representations.readMainInlineData key = some bytes →
    device.ReadsCaptured cipher masterKey key ∨ key ∈ rest.map Prod.fst

/-- What the process relies on, with a master key in the session. -/
def Device.faithfulFor (device : Device) (masterKey : MasterKey) :
    Process → Prop
  | .stopped | .rollingBackKeyslot _ _ | .rollingBackKek _ _ => True
  | .idle switched =>
      switched = true ∨ device.phase = none → device.SoundUnder cipher masterKey
  | .preparingKey | .settingStatus _ _ | .discardingRecords _ _
  | .discardingKey _ _ | .savingPhase _ none _
  | .savingPhase _ (some (.swapped _ _)) _ =>
      device.SoundUnder cipher masterKey
  | .listing runId =>
      device.SoundUnder cipher masterKey ∧ device.TrueRecords cipher runId
  | .backingUp runId rest =>
      device.SoundUnder cipher masterKey ∧ device.TrueRecords cipher runId ∧
        device.BacksRowsExcept cipher runId rest
  | .upserting runId key ciphertext rest =>
      device.SoundUnder cipher masterKey ∧ device.TrueRecords cipher runId ∧
        device.BacksRowsExcept cipher runId (key :: rest) ∧
        ∃ migrationKey nonce plaintext,
          device.migrationKeys.find runId = some migrationKey ∧
          device.capturedInline key = some plaintext ∧
          ciphertext = cipher.encrypt migrationKey nonce plaintext (aadOf key)
  | .savingPhase _ (some (.prepared runId)) _ | .handshaking runId
  | .storingKeyslot runId _ | .openingSession runId _ =>
      device.SoundUnder cipher masterKey ∧ device.TrueRecords cipher runId ∧
        device.BacksRowsExcept cipher runId []
  | .confirming runId | .admitting runId _ | .trusting runId _
  | .savingAddress runId _ | .savingPhase _ (some (.handshakeDone runId _)) _ =>
      device.TrueRecords cipher runId ∧
        device.ReadsOrBacks cipher masterKey runId
  | .counting runId _ | .listingRecords runId _ =>
      device.phase ≠ none ∧ device.TrueRecords cipher runId ∧
        device.ReadsOrBacks cipher masterKey runId
  | .swapping runId _ rest =>
      device.phase ≠ none ∧ device.TrueRecords cipher runId ∧
        (∀ entry ∈ rest, device.backup.find entry.1 = some entry.2) ∧
        device.ReadsOrAwaits cipher masterKey rest

def Device.BlobRowsOpen (device : Device) (masterKey : MasterKey) : Prop :=
  ∀ key row blobId, device.representations.findRep key = some row →
    row.rep.blobId = some blobId →
      device.BlobOpens blobFiles masterKey blobId

structure Faithful (device : Device) : Prop where
  remembers : device.Remembers cipher blobFiles
  /-- Records open only under migration keys that have been drawn. -/
  drawn : ∀ key record migrationKey plaintext,
    device.backup.find key = some record →
      cipher.decrypt migrationKey record.ciphertext (aadOf key) =
        some plaintext →
      migrationKey ∈ device.drawnKeys
  held : ∃ masterKey, device.session = some masterKey ∧
    device.BlobRowsOpen blobFiles masterKey ∧
    device.faithfulFor cipher masterKey device.process

end Invariant

/-! ## A step of the pipeline -/

variable {key : RepKey} {rest : List (RepKey × MigrationRecord)} {nonce : Nonce}

section Captures

variable {cipher : Sealing MasterKey Nonce} {blobFiles : BlobFileCodec}
variable {device after : Device} {masterKey : MasterKey} {runId : String}
variable (captures : Captures cipher blobFiles device after)
variable (remembers : device.Remembers cipher blobFiles)

include captures

theorem capturedInline_of_some {plaintext : List UInt8}
    (isCaptured : device.capturedInline key = some plaintext) :
    after.capturedInline key = some plaintext := by
  obtain ⟨rep, found, hasInline⟩ := Option.bind_eq_some_iff.mp isCaptured
  unfold Device.capturedInline
  rw [captures.known key rep found, Option.bind_some]
  exact hasInline

theorem inline_cases {bytes : List UInt8}
    (read : after.representations.readMainInlineData key = some bytes) :
    device.representations.readMainInlineData key = some bytes ∨
      device.process.backsUp = false ∧ ∃ masterKey,
        after.session = some masterKey ∧
          after.ReadsCaptured cipher masterKey key := by
  obtain ⟨row, found, hasInline⟩ := readMainInlineData_eq_some_iff.mp read
  cases captures.rows key row found with
  | stays before isBefore sameInline sameBlob =>
      apply Or.inl
      apply readMainInlineData_eq_some_iff.mpr
      exact ⟨before, isBefore, sameInline.symm.trans hasInline⟩
  | moved noInline opens =>
      rw [SnapshotRepresentationRow.inlineData, noInline] at hasInline
      cases hasInline
  | new calm masterKey inSession reads noBlob =>
      exact Or.inr ⟨calm, masterKey, inSession, reads⟩

theorem readsCaptured_frame {bytes : List UInt8}
    (readAfter : after.representations.readMainInlineData key = some bytes)
    (readBefore : device.representations.readMainInlineData key = some bytes)
    (reads : device.ReadsCaptured cipher masterKey key) :
    after.ReadsCaptured cipher masterKey key := by
  obtain ⟨plaintext, isCaptured, same, isSame, opened⟩ := reads
  rw [readBefore, Option.some.injEq] at isSame
  subst isSame
  exact ⟨plaintext, capturedInline_of_some captures isCaptured, bytes, readAfter,
    opened⟩

theorem backsCaptured_frame (backs : device.BacksCaptured cipher runId key) :
    after.BacksCaptured cipher runId key := by
  obtain ⟨plaintext, isCaptured, backed⟩ := backs
  refine ⟨plaintext, capturedInline_of_some captures isCaptured, ?_⟩
  rw [captures.same.backup, captures.same.migrationKeys]
  exact backed

theorem trueRecords_frame (records : device.TrueRecords cipher runId) :
    after.TrueRecords cipher runId := by
  obtain ⟨migrationKey, isDrawn, held, each⟩ := records
  refine ⟨migrationKey, ?_, ?_, ?_⟩
  · rw [captures.same.drawnKeys]
    exact isDrawn
  · rw [captures.same.migrationKeys]
    exact held
  · intro key record plaintext found opened
    rw [captures.same.backup] at found
    exact capturedInline_of_some captures (each key record plaintext found opened)

variable (inSession : device.session = some masterKey)

include inSession

theorem new_reads {other : MasterKey}
    (otherSession : after.session = some other)
    (reads : after.ReadsCaptured cipher other key) :
    after.ReadsCaptured cipher masterKey key := by
  rw [captures.same.session, inSession, Option.some.injEq] at otherSession
  subst otherSession
  exact reads

theorem soundUnder_frame (sound : device.SoundUnder cipher masterKey) :
    after.SoundUnder cipher masterKey := by
  intro key bytes read
  cases inline_cases captures read with
  | inl before =>
      exact readsCaptured_frame captures read before (sound key bytes before)
  | inr isNew =>
      obtain ⟨_, other, otherSession, reads⟩ := isNew
      exact new_reads captures inSession otherSession reads

theorem readsOrBacks_frame
    (rows : device.ReadsOrBacks cipher masterKey runId) :
    after.ReadsOrBacks cipher masterKey runId := by
  intro key bytes read
  cases inline_cases captures read with
  | inl before =>
      cases rows key bytes before with
      | inl reads =>
          exact Or.inl (readsCaptured_frame captures read before reads)
      | inr backs => exact Or.inr (backsCaptured_frame captures backs)
  | inr isNew =>
      obtain ⟨_, other, otherSession, reads⟩ := isNew
      exact Or.inl (new_reads captures inSession otherSession reads)

theorem readsOrAwaits_frame (rows : device.ReadsOrAwaits cipher masterKey rest)
    :
    after.ReadsOrAwaits cipher masterKey rest := by
  intro key bytes read
  cases inline_cases captures read with
  | inl before =>
      cases rows key bytes before with
      | inl reads =>
          exact Or.inl (readsCaptured_frame captures read before reads)
      | inr awaits => exact Or.inr awaits
  | inr isNew =>
      obtain ⟨_, other, otherSession, reads⟩ := isNew
      exact Or.inl (new_reads captures inSession otherSession reads)

omit inSession

theorem backsRowsExcept_frame {overdue : List RepKey}
    (window : device.process.backsUp = true)
    (rows : device.BacksRowsExcept cipher runId overdue) :
    after.BacksRowsExcept cipher runId overdue := by
  intro key bytes read
  cases inline_cases captures read with
  | inl before =>
      cases rows key bytes before with
      | inl isOverdue => exact Or.inl isOverdue
      | inr backs => exact Or.inr (backsCaptured_frame captures backs)
  | inr isNew =>
      rw [window] at isNew
      cases isNew.1

include inSession

theorem faithfulFor_frame
    (relies : device.faithfulFor cipher masterKey device.process) :
    after.faithfulFor cipher masterKey after.process := by
  have sound := soundUnder_frame captures inSession
  have records : ∀ runId, device.TrueRecords cipher runId →
      after.TrueRecords cipher runId :=
    fun runId => trueRecords_frame captures
  have same := captures.same
  rw [same.process]
  cases before : device.process with
  | stopped => trivial
  | rollingBackKeyslot runId slot => trivial
  | rollingBackKek runId slot => trivial
  | idle switched =>
      rw [before] at relies
      intro quiet
      rw [same.phase] at quiet
      exact sound (relies quiet)
  | preparingKey =>
      rw [before] at relies
      exact sound relies
  | settingStatus runId targetSpaceId =>
      rw [before] at relies
      exact sound relies
  | discardingRecords runId switched =>
      rw [before] at relies
      exact sound relies
  | discardingKey runId switched =>
      rw [before] at relies
      exact sound relies
  | listing runId =>
      rw [before] at relies
      exact ⟨sound relies.1, records runId relies.2⟩
  | backingUp runId rest =>
      rw [before] at relies
      exact ⟨sound relies.1, records runId relies.2.1,
        backsRowsExcept_frame captures (by rw [before]; rfl) relies.2.2⟩
  | upserting runId key ciphertext rest =>
      rw [before] at relies
      obtain ⟨isSound, areTrue, backs, migrationKey, nonce, plaintext, held,
        isCaptured, isCiphertext⟩ := relies
      refine ⟨sound isSound, records runId areTrue,
        backsRowsExcept_frame captures (by rw [before]; rfl) backs,
        migrationKey, nonce, plaintext, ?_,
        capturedInline_of_some captures isCaptured, isCiphertext⟩
      rw [same.migrationKeys]
      exact held
  | savingPhase truncated phase switched =>
      rw [before] at relies
      cases phase with
      | none => exact sound relies
      | some phase =>
          cases phase with
          | prepared runId =>
              exact ⟨sound relies.1, records runId relies.2.1,
                backsRowsExcept_frame captures (by rw [before]; rfl)
                  relies.2.2⟩
          | handshakeDone runId targetSpaceId =>
              exact ⟨records runId relies.1,
                readsOrBacks_frame captures inSession relies.2⟩
          | swapped runId targetSpaceId => exact sound relies
  | handshaking runId =>
      rw [before] at relies
      exact ⟨sound relies.1, records runId relies.2.1,
        backsRowsExcept_frame captures (by rw [before]; rfl) relies.2.2⟩
  | storingKeyslot runId slot =>
      rw [before] at relies
      exact ⟨sound relies.1, records runId relies.2.1,
        backsRowsExcept_frame captures (by rw [before]; rfl) relies.2.2⟩
  | openingSession runId slot =>
      rw [before] at relies
      exact ⟨sound relies.1, records runId relies.2.1,
        backsRowsExcept_frame captures (by rw [before]; rfl) relies.2.2⟩
  | confirming runId =>
      rw [before] at relies
      exact ⟨records runId relies.1,
        readsOrBacks_frame captures inSession relies.2⟩
  | admitting runId targetSpaceId =>
      rw [before] at relies
      exact ⟨records runId relies.1,
        readsOrBacks_frame captures inSession relies.2⟩
  | trusting runId targetSpaceId =>
      rw [before] at relies
      exact ⟨records runId relies.1,
        readsOrBacks_frame captures inSession relies.2⟩
  | savingAddress runId targetSpaceId =>
      rw [before] at relies
      exact ⟨records runId relies.1,
        readsOrBacks_frame captures inSession relies.2⟩
  | counting runId targetSpaceId =>
      rw [before] at relies
      refine ⟨?_, records runId relies.2.1,
        readsOrBacks_frame captures inSession relies.2.2⟩
      rw [same.phase]
      exact relies.1
  | listingRecords runId targetSpaceId =>
      rw [before] at relies
      refine ⟨?_, records runId relies.2.1,
        readsOrBacks_frame captures inSession relies.2.2⟩
      rw [same.phase]
      exact relies.1
  | swapping runId targetSpaceId rest =>
      rw [before] at relies
      obtain ⟨pending, areTrue, ofBackup, rows⟩ := relies
      refine ⟨?_, records runId areTrue, ?_,
        readsOrAwaits_frame captures inSession rows⟩
      · rw [same.phase]
        exact pending
      · rw [same.backup]
        exact ofBackup

end Captures

/-! ## A step of the switch -/

/-- The switch succeeds with an offered keyslot, and the pipeline keeps what
it writes readable. -/
def Orderly (cipher : Sealing MasterKey Nonce) (blobFiles : BlobFileCodec)
    (slot : KeySlot) (device : Device) (action : Action) : Prop :=
  (action.isCapture || device.succeedsWith slot action) = true ∧
    device.keepsReadable cipher blobFiles action = true

instance (cipher : Sealing MasterKey Nonce) (blobFiles : BlobFileCodec)
    (slot : KeySlot) (device : Device) (action : Action) :
    Decidable (Orderly cipher blobFiles slot device action) :=
  inferInstanceAs (Decidable (_ ∧ _))

section Steps

variable {cipher : Sealing MasterKey Nonce} {blobFiles : BlobFileCodec}
variable {localScope : String} {slot : KeySlot}
variable {device after : Device} {action : Action} {masterKey : MasterKey}

theorem trueRecords_prepareKey {runId : String} {key : MasterKey}
    (drawn : ∀ row record migrationKey plaintext,
      device.backup.find row = some record →
        cipher.decrypt migrationKey record.ciphertext (aadOf row) =
          some plaintext →
        migrationKey ∈ device.drawnKeys)
    (freshKey : key ∉ device.drawnKeys) :
    { device with
      migrationKeys := device.migrationKeys.put runId key
      drawnKeys := key :: device.drawnKeys }.TrueRecords cipher runId := by
  refine ⟨key, List.mem_cons_self, Table.find_put_self, ?_⟩
  intro row record plaintext found opened
  exact absurd (drawn row record key plaintext found opened) freshKey

theorem faithfulFor_backUp {runId : String} {rest : List RepKey}
    (inSession : device.session = some masterKey)
    (relies : device.faithfulFor cipher masterKey
      (.backingUp runId (key :: rest))) :
    device.faithfulFor cipher masterKey
      (device.backUp cipher nonce runId key rest) := by
  obtain ⟨sound, records, backs⟩ := relies
  obtain skipped | gaveUp | encrypted := backUp_cases cipher device nonce
    runId key rest
  · obtain ⟨noInline, next⟩ := skipped
    rw [next]
    refine ⟨sound, records, ?_⟩
    intro other bytes read
    cases backs other bytes read with
    | inr backed => exact Or.inr backed
    | inl isOverdue =>
        cases List.mem_cons.mp isOverdue with
        | inr inRest => exact Or.inl inRest
        | inl isKey =>
            rw [isKey, noInline] at read
            cases read
  · rw [gaveUp]
    exact sound
  · obtain ⟨bytes, sessionKey, plaintext, migrationKey, read, ofSession, opened,
      held, next⟩ := encrypted
    rw [inSession, Option.some.injEq] at ofSession
    subst ofSession
    rw [next]
    obtain ⟨wanted, isCaptured, same, isSame, openedAgain⟩ :=
      sound key bytes read
    rw [read, Option.some.injEq] at isSame
    subst isSame
    rw [opened, Option.some.injEq] at openedAgain
    subst openedAgain
    exact ⟨sound, records, backs, migrationKey, nonce, plaintext, held,
      isCaptured, rfl⟩

theorem faithful_upserted {runId : String} {ciphertext : List UInt8}
    {rest : List RepKey} (faithful : Faithful cipher blobFiles device)
    (upserting : device.process = .upserting runId key ciphertext rest) :
    Faithful cipher blobFiles { device with
      backup := device.backup.put key ⟨ciphertext, runId⟩
      process := .backingUp runId rest } := by
  obtain ⟨remembers, drawn, masterKey, inSession, blobRows, relies⟩ := faithful
  rw [upserting] at relies
  obtain ⟨sound, records, backs, migrationKey, nonce, plaintext, held,
    isCaptured, isCiphertext⟩ := relies
  obtain ⟨runKey, isDrawn, isRunKey, each⟩ := records
  have sameKey : runKey = migrationKey :=
    Option.some.inj (isRunKey.symm.trans held)
  subst sameKey
  refine ⟨⟨remembers.rows, remembers.emptied, remembers.pending,
    remembers.blobs⟩, ?_, masterKey, inSession, blobRows, sound,
    ⟨runKey, isDrawn, isRunKey, ?_⟩, ?_⟩
  · intro other record otherKey opened found isOpened
    rw [Table.find_put] at found
    by_cases same : other = key
    · rw [if_pos same, Option.some.injEq] at found
      subst same found
      rw [isCiphertext] at isOpened
      rw [(Sealing.decrypt_encrypt_eq_some_iff.mp isOpened).1]
      exact isDrawn
    · rw [if_neg same] at found
      exact drawn other record otherKey opened found isOpened
  · intro other record opened found isOpened
    rw [Table.find_put] at found
    by_cases same : other = key
    · rw [if_pos same, Option.some.injEq] at found
      subst same found
      rw [isCiphertext] at isOpened
      rw [← (Sealing.decrypt_encrypt_eq_some_iff.mp isOpened).2.2]
      exact isCaptured
    · rw [if_neg same] at found
      exact each other record opened found isOpened
  · intro other bytes read
    by_cases same : other = key
    · subst same
      refine Or.inr ⟨plaintext, isCaptured, runKey, _, held,
        Table.find_put_self, ?_⟩
      rw [isCiphertext]
      exact cipher.decrypt_encrypt _ _ _ _
    · cases backs other bytes read with
      | inl isOverdue =>
          cases List.mem_cons.mp isOverdue with
          | inl isKey => exact absurd isKey same
          | inr inRest => exact Or.inl inRest
      | inr backed =>
          obtain ⟨wanted, isWanted, otherKey, record, otherHeld, found,
            opened⟩ := backed
          exact Or.inr ⟨wanted, isWanted, otherKey, record, otherHeld,
            (Table.find_put_of_ne same).trans found, opened⟩

/-- A record is never written onto a row that has moved on: a row without
inline data has a blob, which refuses the update. -/
theorem swapRecord_of_movedOn {runId targetSpaceId : String}
    {record : MigrationRecord} (faithful : Faithful cipher blobFiles device)
    (swapping :
      device.process = .swapping runId targetSpaceId ((key, record) :: rest))
    (movedOn : device.representations.readMainInlineData key = none) :
    (device.swapRecord cipher nonce runId targetSpaceId key record
      rest).representations = device.representations := by
  obtain ⟨masterKey, inSession, blobRows, relies⟩ := faithful.held
  rw [swapping] at relies
  obtain ⟨_, records, ofBackup, _⟩ := relies
  obtain ⟨runKey, _, isRunKey, each⟩ := records
  obtain gaveUp | swapped := swapRecord_cases cipher device nonce runId
    targetSpaceId key record rest
  · rw [gaveUp]
  · obtain ⟨migrationKey, plaintext, _, updated, held, opened, _, isUpdated,
      next⟩ := swapped
    rw [next]
    rw [isRunKey, Option.some.injEq] at held
    subst held
    have isCaptured := each key record plaintext
      (ofBackup _ List.mem_cons_self) opened
    cases found : device.representations.findRep key with
    | none =>
        rw [updateMainInlineData_of_missing found] at isUpdated
        exact (Option.some.inj isUpdated).symm
    | some row =>
        obtain ⟨written, ofRow, _⟩ :=
          findRep_updateMainInlineData found isUpdated
        have noBlob :=
          (SnapshotRepresentationRow.withInlineData_eq_some_iff.mp ofRow).1
        have noInline : row.rep.inlineData = none := by
          rw [readMainInlineData, found, Option.bind_some] at movedOn
          exact movedOn
        have noCapture :=
          faithful.remembers.emptied key row found noInline noBlob
        rw [isCaptured] at noCapture
        cases noCapture

theorem faithful_recordSwapped {runId targetSpaceId : String}
    {record : MigrationRecord} (faithful : Faithful cipher blobFiles device)
    (swapping :
      device.process = .swapping runId targetSpaceId ((key, record) :: rest)) :
    Faithful cipher blobFiles (device.swapRecord cipher nonce runId
      targetSpaceId key record rest) := by
  obtain ⟨remembers, drawn, masterKey, inSession, blobRows, relies⟩ := faithful
  rw [swapping] at relies
  obtain ⟨pending, records, ofBackup, rows⟩ := relies
  obtain gaveUp | swapped := swapRecord_cases cipher device nonce runId
    targetSpaceId key record rest
  · rw [gaveUp]
    refine ⟨⟨remembers.rows, remembers.emptied, remembers.pending,
      remembers.blobs⟩, drawn, masterKey, inSession, blobRows, ?_⟩
    intro quiet
    cases quiet with
    | inl switched => cases switched
    | inr noPhase => exact absurd noPhase pending
  · obtain ⟨migrationKey, plaintext, sessionKey, updated, held, opened,
      ofSession, isUpdated, next⟩ := swapped
    rw [inSession, Option.some.injEq] at ofSession
    subst ofSession
    obtain ⟨runKey, isDrawn, isRunKey, each⟩ := records
    have sameKey : runKey = migrationKey :=
      Option.some.inj (isRunKey.symm.trans held)
    subst sameKey
    have isCaptured := each key record plaintext
      (ofBackup _ List.mem_cons_self) opened
    -- every row of the updated table was there, the one under the key without
    -- a blob and now with inline data
    have rowOf : ∀ other row, updated.findRep other = some row →
        other ≠ key ∧ device.representations.findRep other = some row ∨
          other = key ∧ (device.representations.findRep key).isSome = true ∧
            row.rep.blobId = none ∧ row.rep.inlineData ≠ none := by
      intro other row found
      by_cases same : other = key
      · subst same
        apply Or.inr
        cases before : device.representations.findRep other with
        | none =>
            rw [updateMainInlineData_of_missing before, Option.some.injEq]
              at isUpdated
            rw [← isUpdated, before] at found
            cases found
        | some old =>
            obtain ⟨written, ofOld, foundWritten⟩ :=
              findRep_updateMainInlineData before isUpdated
            rw [found, Option.some.injEq] at foundWritten
            subst foundWritten
            obtain ⟨noBlob, _, isRep⟩ :=
              SnapshotRepresentationRow.withInlineData_eq_some_iff.mp ofOld
            refine ⟨rfl, rfl, ?_, ?_⟩
            · rw [isRep]
              exact noBlob
            · rw [isRep]
              exact Option.some_ne_none _
      · apply Or.inl
        rw [findRep_updateMainInlineData_of_ne same isUpdated] at found
        exact ⟨same, found⟩
    rw [next]
    refine ⟨⟨?_, ?_, remembers.pending, remembers.blobs⟩, drawn, masterKey,
      inSession, ?_, pending, ⟨runKey, isDrawn, isRunKey, each⟩, ?_, ?_⟩
    · intro other row found
      cases rowOf other row found with
      | inl before => exact remembers.rows other row before.2
      | inr updatedRow =>
          obtain ⟨old, isOld⟩ := Option.isSome_iff_exists.mp updatedRow.2.1
          rw [updatedRow.1]
          exact remembers.rows key old isOld
    · intro other row found noInline noBlob
      cases rowOf other row found with
      | inl before =>
          exact remembers.emptied other row before.2 noInline noBlob
      | inr updatedRow => exact absurd noInline updatedRow.2.2.2
    · intro other row blobId found isBlob
      cases rowOf other row found with
      | inl before => exact blobRows other row blobId before.2 isBlob
      | inr updatedRow =>
          rw [updatedRow.2.2.1] at isBlob
          cases isBlob
    · exact fun entry inRest => ofBackup entry (List.mem_cons_of_mem _ inRest)
    · intro other bytes read
      obtain ⟨row, found, _⟩ := readMainInlineData_eq_some_iff.mp read
      cases rowOf other row found with
      | inr updatedRow =>
          obtain ⟨isKey, isPresent, _⟩ := updatedRow
          subst isKey
          exact Or.inl ⟨plaintext, isCaptured,
            Reads.of_update isPresent isUpdated⟩
      | inl before =>
          obtain ⟨different, _⟩ := before
          have readBefore :=
            readMainInlineData_updateMainInlineData_of_ne different isUpdated
          rw [read] at readBefore
          cases rows other bytes readBefore.symm with
          | inl reads =>
              obtain ⟨wanted, isWanted, isReads⟩ := reads
              exact Or.inl ⟨wanted, isWanted,
                isReads.update_of_ne different isUpdated⟩
          | inr awaits =>
              cases List.mem_cons.mp awaits with
              | inl isKey => exact absurd isKey different
              | inr inRest => exact Or.inr inRest

theorem faithful_failed {next : Process}
    (faithful : Faithful cipher blobFiles device)
    (succeeding : device.succeedsWith slot .fail = true)
    (led : device.process.afterFailure = some next) :
    Faithful cipher blobFiles { device with process := next } := by
  obtain ⟨remembers, drawn, masterKey, inSession, blobRows, relies⟩ := faithful
  refine ⟨⟨remembers.rows, remembers.emptied, remembers.pending,
    remembers.blobs⟩, drawn, masterKey, inSession, blobRows, ?_⟩
  unfold Device.succeedsWith at succeeding
  cases before : device.process with
  | savingAddress runId targetSpaceId =>
      rw [before] at led relies
      cases led
      exact relies
  | discardingRecords runId switched =>
      rw [before] at led relies succeeding
      cases runId with
      | none => cases succeeding
      | some runId =>
          cases led
          exact relies
  | discardingKey runId switched =>
      rw [before] at led relies
      cases led
      exact relies
  | _ =>
      rw [before] at succeeding
      cases succeeding

theorem faithful_saved {phase : Option MigrationPhase} {switched : Bool}
    (faithful : Faithful cipher blobFiles device)
    (saving : device.process = .savingPhase true phase switched) :
    Faithful cipher blobFiles { device with
      phase := phase
      process := afterSave switched phase } := by
  obtain ⟨remembers, drawn, masterKey, inSession, blobRows, relies⟩ := faithful
  refine ⟨⟨remembers.rows, remembers.emptied, remembers.pending,
    remembers.blobs⟩, drawn, masterKey, inSession, blobRows, ?_⟩
  rw [saving] at relies
  cases phase with
  | none => exact fun _ => relies
  | some phase =>
      cases phase with
      | prepared runId => exact relies
      | handshakeDone runId targetSpaceId =>
          exact ⟨Option.some_ne_none _, relies⟩
      | swapped runId targetSpaceId => exact relies

theorem faithful_truncated {phase : Option MigrationPhase} {switched : Bool}
    (faithful : Faithful cipher blobFiles device)
    (saving : device.process = .savingPhase false phase switched) :
    Faithful cipher blobFiles { device with
      phase := none
      process := .savingPhase true phase switched } := by
  obtain ⟨remembers, drawn, masterKey, inSession, blobRows, relies⟩ := faithful
  refine ⟨⟨remembers.rows, remembers.emptied, remembers.pending,
    remembers.blobs⟩, drawn, masterKey, inSession, blobRows, ?_⟩
  rw [saving] at relies
  cases phase with
  | none => exact relies
  | some phase => cases phase <;> exact relies

theorem faithful_sessionOpened {runId : String} {offered : KeySlot}
    (faithful : Faithful cipher blobFiles device)
    (opening : device.process = .openingSession runId offered)
    (keeps : device.keepsReadable cipher blobFiles .proceed = true) :
    Faithful cipher blobFiles { device with
      session := some offered.masterKey
      process := .confirming runId } := by
  obtain ⟨remembers, drawn, masterKey, inSession, blobRows, relies⟩ := faithful
  rw [opening] at relies
  obtain ⟨_, records, backs⟩ := relies
  simp only [Device.keepsReadable, opening] at keeps
  refine ⟨⟨remembers.rows, remembers.emptied, remembers.pending,
    remembers.blobs⟩, drawn, offered.masterKey, rfl, ?_, records, ?_⟩
  · intro key row blobId found isBlob
    have isRow := (findRep_eq_some_iff.mp found).1
    have opens := List.all_eq_true.mp keeps (key.repId, row)
      (Table.mem_rows_iff.mpr isRow)
    rw [isBlob, Option.all_some] at opens
    exact remembers.blobs.opens opens
  · intro key bytes read
    cases backs key bytes read with
    | inl isOverdue => cases isOverdue
    | inr backed => exact Or.inr backed

theorem Faithful.moveOn {next : Process} {keks : Table String MasterKey}
    {keyslot : Option KeySlot} {hasCompleted : Bool} {spaceId : Option String}
    (faithful : Faithful cipher blobFiles device)
    (relies : ∀ masterKey, device.session = some masterKey →
      device.faithfulFor cipher masterKey device.process →
        device.faithfulFor cipher masterKey next) :
    Faithful cipher blobFiles { device with
      hasCompleted := hasCompleted
      spaceId := spaceId
      keks := keks
      keyslot := keyslot
      process := next } := by
  obtain ⟨remembers, drawn, masterKey, inSession, blobRows, before⟩ := faithful
  exact ⟨⟨remembers.rows, remembers.emptied, remembers.pending,
    remembers.blobs⟩, drawn, masterKey, inSession, blobRows,
    relies masterKey inSession before⟩

theorem faithful_step (faithful : Faithful cipher blobFiles device)
    (orderly : Orderly cipher blobFiles slot device action)
    (effect : Effect cipher blobFiles localScope device action after) :
    Faithful cipher blobFiles after := by
  obtain ⟨admitted, keeps⟩ := orderly
  cases effect with
  | began idle noPhase =>
      apply faithful.moveOn
      intro masterKey _ relies
      rw [idle] at relies
      exact relies (Or.inr noPhase)
  | keyPrepared preparing freshRun freshKey =>
      obtain ⟨remembers, drawn, masterKey, inSession, blobRows, relies⟩ :=
        faithful
      rw [preparing] at relies
      refine ⟨⟨remembers.rows, remembers.emptied, remembers.pending,
        remembers.blobs⟩, ?_, masterKey, inSession, blobRows, relies,
        trueRecords_prepareKey drawn freshKey⟩
      intro row record migrationKey plaintext found opened
      exact List.mem_cons_of_mem _
        (drawn row record migrationKey plaintext found opened)
  | listed listing permuted =>
      apply faithful.moveOn
      intro masterKey _ relies
      rw [listing] at relies
      refine ⟨relies.1, relies.2, ?_⟩
      intro key bytes read
      obtain ⟨row, found, hasInline⟩ := readMainInlineData_eq_some_iff.mp read
      apply Or.inl
      apply permuted.mem_iff.mpr
      exact mem_mainInlineRepresentations.mpr ⟨row, bytes, found, hasInline⟩
  | backedUp backingUp =>
      apply faithful.moveOn
      intro masterKey inSession relies
      rw [backingUp] at relies
      exact faithfulFor_backUp inSession relies
  | upserted upserting => exact faithful_upserted faithful upserting
  | prepared backingUp =>
      apply faithful.moveOn
      intro masterKey _ relies
      rw [backingUp] at relies
      exact relies
  | truncated saving => exact faithful_truncated faithful saving
  | saved saving => exact faithful_saved faithful saving
  | kekStored handshaking =>
      apply faithful.moveOn
      intro masterKey _ relies
      rw [handshaking] at relies
      exact relies
  | keyslotStored storing =>
      apply faithful.moveOn
      intro masterKey _ relies
      rw [storing] at relies
      exact relies
  | keyslotRolledBack rollingBack =>
      simp only [Action.isCapture, Device.succeedsWith, rollingBack] at admitted
      cases admitted
  | kekRolledBack rollingBack =>
      simp only [Action.isCapture, Device.succeedsWith, rollingBack] at admitted
      cases admitted
  | sessionOpened opening =>
      exact faithful_sessionOpened faithful opening keeps
  | confirmed confirming =>
      apply faithful.moveOn
      intro masterKey _ relies
      rw [confirming] at relies
      exact relies
  | admitted admitting =>
      apply faithful.moveOn
      intro masterKey _ relies
      rw [admitting] at relies
      exact relies
  | trusted trusting =>
      apply faithful.moveOn
      intro masterKey _ relies
      rw [trusting] at relies
      exact relies
  | addressSaved saving =>
      apply faithful.moveOn
      intro masterKey _ relies
      rw [saving] at relies
      exact relies
  | counted counting =>
      apply faithful.moveOn
      intro masterKey _ relies
      rw [counting] at relies
      exact relies
  | recordsListed listing permuted =>
      apply faithful.moveOn
      intro masterKey _ relies
      rw [listing] at relies
      obtain ⟨pending, records, rows⟩ := relies
      refine ⟨pending, records, ?_, ?_⟩
      · intro entry listed
        exact Table.mem_rows_iff.mp (permuted.mem_iff.mp listed)
      · intro key bytes read
        cases rows key bytes read with
        | inl reads => exact Or.inl reads
        | inr backs =>
            obtain ⟨_, _, _, record, _, found, _⟩ := backs
            apply Or.inr
            apply List.mem_map.mpr
            exact ⟨(key, record),
              permuted.mem_iff.mpr (Table.mem_rows_iff.mpr found), rfl⟩
  | recordSwapped swapping => exact faithful_recordSwapped faithful swapping
  | allSwapped swapping =>
      apply faithful.moveOn
      intro masterKey _ relies
      rw [swapping] at relies
      intro key bytes read
      cases relies.2.2.2 key bytes read with
      | inl reads => exact reads
      | inr awaits => cases awaits
  | statusSet setting =>
      apply faithful.moveOn
      intro masterKey _ relies
      rw [setting] at relies
      exact relies
  | recordsAbandoned discarding =>
      obtain ⟨remembers, _, masterKey, inSession, blobRows, relies⟩ := faithful
      rw [discarding] at relies
      refine ⟨⟨remembers.rows, remembers.emptied, remembers.pending,
        remembers.blobs⟩, ?_, masterKey, inSession, blobRows, fun _ => relies⟩
      intro row record migrationKey plaintext found
      cases found
  | recordsDiscarded discarding =>
      obtain ⟨remembers, _, masterKey, inSession, blobRows, relies⟩ := faithful
      rw [discarding] at relies
      refine ⟨⟨remembers.rows, remembers.emptied, remembers.pending,
        remembers.blobs⟩, ?_, masterKey, inSession, blobRows, relies⟩
      intro row record migrationKey plaintext found
      cases found
  | keyDiscarded discarding =>
      obtain ⟨remembers, drawn, masterKey, inSession, blobRows, relies⟩ :=
        faithful
      rw [discarding] at relies
      exact ⟨⟨remembers.rows, remembers.emptied, remembers.pending,
        remembers.blobs⟩, drawn, masterKey, inSession, blobRows, relies⟩
  | failed led =>
      have succeeding : device.succeedsWith slot .fail = true := admitted
      exact faithful_failed faithful succeeding led
  | crashed => cases admitted
  | unlocked stopped isSlot => cases admitted
  | resumed idle => cases admitted
  | captured isCapture stepped =>
      have captures := captures_of_step faithful.remembers isCapture keeps stepped
      obtain ⟨remembers, drawn, masterKey, inSession, blobRows, relies⟩ :=
        faithful
      refine ⟨captures.remembers, ?_, masterKey, ?_, ?_,
        faithfulFor_frame captures inSession relies⟩
      · rw [captures.same.backup, captures.same.drawnKeys]
        exact drawn
      · rw [captures.same.session]
        exact inSession
      · intro key row blobId found isBlob
        cases captures.rows key row found with
        | stays before isBefore sameInline sameBlob =>
            exact captures.opens masterKey blobId
              (blobRows key before blobId isBefore (sameBlob.symm.trans isBlob))
        | moved noInline opens =>
            obtain ⟨other, otherSession, isOpen⟩ := opens blobId isBlob
            rw [captures.same.session, inSession, Option.some.injEq]
              at otherSession
            subst otherSession
            exact isOpen
        | new calm other otherSession reads noBlob =>
            rw [noBlob] at isBlob
            cases isBlob

/-! ## Runs -/

/-- A device between switches on which everything stored reads as it was
captured. -/
structure Intact (cipher : Sealing MasterKey Nonce) (blobFiles : BlobFileCodec)
    (device : Device) (masterKey : MasterKey) : Prop where
  idle : device.process = .idle false
  noPhase : device.phase = none
  inSession : device.session = some masterKey
  remembers : device.Remembers cipher blobFiles
  drawn : ∀ key record migrationKey plaintext,
    device.backup.find key = some record →
      cipher.decrypt migrationKey record.ciphertext (aadOf key) =
        some plaintext →
      migrationKey ∈ device.drawnKeys
  sound : device.SoundUnder cipher masterKey
  blobRows : device.BlobRowsOpen blobFiles masterKey

/-- Whatever the capture pipeline does beside the switch, after a success
everything stored reads as it was captured, and on the way no record is
written onto a row that has moved on. -/
theorem capturesSurviveSwitch {start final : Device} {oldKey : MasterKey}
    (intact : Intact cipher blobFiles start oldKey)
    (run : Run (Device.step cipher blobFiles localScope)
      (Orderly cipher blobFiles slot) start final) :
    (final.process = .idle true →
      ∃ newKey, final.session = some newKey ∧
        final.SoundUnder cipher newKey ∧
        final.BlobRowsOpen blobFiles newKey) ∧
    ∀ runId targetSpaceId key record rest nonce,
      final.process = .swapping runId targetSpaceId ((key, record) :: rest) →
        final.representations.readMainInlineData key = none →
          (final.swapRecord cipher nonce runId targetSpaceId key record
            rest).representations = final.representations := by
  have initially : Faithful cipher blobFiles start := by
    refine ⟨intact.remembers, intact.drawn, oldKey, intact.inSession,
      intact.blobRows, ?_⟩
    rw [intact.idle]
    exact fun _ => intact.sound
  have faithful : Faithful cipher blobFiles final :=
    run.preserves initially fun before action after holds orderly stepped =>
      faithful_step holds orderly (effect_of_step stepped)
  constructor
  · intro switched
    obtain ⟨newKey, inSession, blobRows, relies⟩ := faithful.held
    rw [switched] at relies
    exact ⟨newKey, inSession, relies (Or.inl rfl), blobRows⟩
  · intro runId targetSpaceId key record rest nonce swapping movedOn
    exact swapRecord_of_movedOn faithful swapping movedOn

end Steps

/-! ## A capture during the switch -/

def secondRow : RepKey := ⟨"event-2", "rep-2"⟩

def captureSecond : List Action :=
  [.encryptEvent "event-2" [{ sampleRep [111] with id := "rep-2" }]
      fun _ => sampleNonce,
    .insertEvent 0]

theorem eq_sampleRow_of_found {row : SnapshotRepresentationRow}
    (found : sampleDevice.representations.findRep key = some row) :
    key = sampleRow ∧ row.rep = sampleRep (sampleCipher.encrypt (sampleKey 1)
      sampleNonce [104, 105] (aadOf sampleRow)) := by
  obtain ⟨isRow, sameEvent⟩ := findRep_eq_some_iff.mp found
  unfold sampleDevice at isRow
  rw [Table.find_put] at isRow
  by_cases isRep : key.repId = "rep-1"
  · rw [if_pos isRep, Option.some.injEq] at isRow
    subst isRow
    refine ⟨?_, rfl⟩
    cases key
    simp_all [sampleRow]
  · rw [if_neg isRep] at isRow
    cases isRow

theorem intact_sampleDevice :
    Intact sampleCipher sampleBlobFiles sampleDevice (sampleKey 1) where
  idle := rfl
  noPhase := rfl
  inSession := rfl
  remembers := by
    refine ⟨?_, ?_, ?_, ?_⟩
    · intro key row found
      rw [(eq_sampleRow_of_found found).1]
      decide +kernel
    · intro key row found noInline
      rw [(eq_sampleRow_of_found found).2] at noInline
      cases noInline
    · intro event isPending
      cases isPending
    · intro blobId stored found
      cases found
  drawn := by
    intro key record migrationKey plaintext found
    cases found
  sound := by
    intro key bytes read
    obtain ⟨row, found, _⟩ := readMainInlineData_eq_some_iff.mp read
    rw [(eq_sampleRow_of_found found).1]
    exact ⟨[104, 105], by decide +kernel, by decide +kernel⟩
  blobRows := by
    intro key row blobId found isBlob
    rw [(eq_sampleRow_of_found found).2] at isBlob
    cases isBlob

/-- A capture after the key change is encrypted under the new key and reads as
it was captured. -/
theorem capturesSurviveSwitch_after_key_change :
    ∃ final, Run (Device.step sampleCipher sampleBlobFiles sampleScope)
        (Orderly sampleCipher sampleBlobFiles (sampleSlot 2)) sampleDevice
        final ∧
      final.process = .idle true ∧
      (final.representations.readMainInlineData secondRow).isSome = true ∧
      ∃ newKey, final.session = some newKey ∧
        final.SoundUnder sampleCipher newKey ∧
        final.BlobRowsOpen sampleBlobFiles newKey := by
  let actions := backUpSample "run-1" 9 ++ (handshakeSample 2).take 6 ++
    captureSecond ++ (handshakeSample 2).drop 6 ++ swapSample "run-1" 9
  let step := Device.step sampleCipher sampleBlobFiles sampleScope
  have guarded : Guarded step
      (Orderly sampleCipher sampleBlobFiles (sampleSlot 2)) sampleDevice
        actions := by
    decide +kernel
  have ended : (execute step sampleDevice actions).map
      (fun device => (device.process,
        (device.representations.readMainInlineData secondRow).isSome)) =
          some (.idle true, true) := by
    decide +kernel
  obtain ⟨final, executed, ends⟩ := Option.map_eq_some_iff.mp ended
  have switched : final.process = .idle true := congrArg Prod.fst ends
  have isStored : (final.representations.readMainInlineData
      secondRow).isSome = true := congrArg Prod.snd ends
  have run := Run.ofExecute guarded executed
  exact ⟨final, run, switched, isStored,
    (capturesSurviveSwitch intact_sampleDevice run).1 switched⟩

/-- A capture between the listing and the key change is lost: after the
success it opens under the old key and not under the one in the session. -/
theorem capture_before_key_change_is_lost :
    (execute (Device.step sampleCipher sampleBlobFiles sampleScope) sampleDevice
        (backUpSample "run-1" 9 ++ captureSecond ++ handshakeSample 2 ++
          swapSample "run-1" 9)).map
      (fun device => (device.process, device.session,
        decide (Reads sampleCipher device.representations (sampleKey 1)
          secondRow [111]),
        (device.representations.readMainInlineData secondRow).bind
          (fun bytes => sampleCipher.decrypt (sampleKey 2) bytes
            (aadOf secondRow)))) =
      some (.idle true, some (sampleKey 2), true, none) := by
  decide +kernel

end OpenClipboard.SwitchSpace
