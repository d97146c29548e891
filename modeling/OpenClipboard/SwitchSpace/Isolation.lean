import OpenClipboard.SwitchSpace.Effects

/-!
# A run reads its own backup records

The backup table has no column for the run and a failed clean-up is only
warned of, so a record can outlive its run.  It does no harm where the next
run overwrites it: then every record that phase 3 reads was written by its own
run and opens under that run's migration key.
-/

namespace OpenClipboard.SwitchSpace

open OpenClipboard RepresentationTable Transition

/-! ## Records of one run -/

section Records

variable (cipher : Sealing MasterKey Nonce)

/-- Written by the run, and readable with its migration key. -/
def MigrationRecord.IsOwn (record : MigrationRecord) (runId : String)
    (migrationKey : MasterKey) (key : RepKey) : Prop :=
  record.writtenBy = runId ∧
    (cipher.decrypt migrationKey record.ciphertext (aadOf key)).isSome = true

/-- All records but those of some keys are the run's own. -/
def OwnRecordsExcept (backup : Table RepKey MigrationRecord)
    (migrationKeys : Table String MasterKey) (runId : String)
    (overdue : List RepKey) : Prop :=
  ∃ migrationKey, migrationKeys.find runId = some migrationKey ∧
    ∀ key record, backup.find key = some record →
      key ∈ overdue ∨ record.IsOwn cipher runId migrationKey key

def OwnRecords (backup : Table RepKey MigrationRecord)
    (migrationKeys : Table String MasterKey) (runId : String) : Prop :=
  OwnRecordsExcept cipher backup migrationKeys runId []

end Records

section

variable {cipher : Sealing MasterKey Nonce}
variable {backup : Table RepKey MigrationRecord}
variable {migrationKeys : Table String MasterKey} {runId : String}
variable {key : RepKey} {rest : List RepKey}

theorem OwnRecordsExcept.put
    {migrationKey : MasterKey} {ciphertext : List UInt8}
    (own : OwnRecordsExcept cipher backup migrationKeys runId (key :: rest))
    (held : migrationKeys.find runId = some migrationKey)
    (opens : (cipher.decrypt migrationKey ciphertext (aadOf key)).isSome = true) :
    OwnRecordsExcept cipher (backup.put key ⟨ciphertext, runId⟩) migrationKeys
      runId rest := by
  refine ⟨migrationKey, held, ?_⟩
  intro other record found
  rw [Table.find_put] at found
  by_cases same : other = key
  · rw [if_pos same, Option.some.injEq] at found
    subst same found
    exact Or.inr ⟨rfl, opens⟩
  · rw [if_neg same] at found
    obtain ⟨otherKey, otherHeld, each⟩ := own
    have sameKey : otherKey = migrationKey :=
      Option.some.inj (otherHeld.symm.trans held)
    subst sameKey
    cases each other record found with
    | inl isOverdue =>
        cases List.mem_cons.mp isOverdue with
        | inl isKey => exact absurd isKey same
        | inr inRest => exact Or.inl inRest
    | inr isOwn => exact Or.inr isOwn

theorem OwnRecordsExcept.skip
    (own : OwnRecordsExcept cipher backup migrationKeys runId (key :: rest))
    (absent : backup.find key = none) :
    OwnRecordsExcept cipher backup migrationKeys runId rest := by
  obtain ⟨migrationKey, held, each⟩ := own
  refine ⟨migrationKey, held, ?_⟩
  intro other record found
  cases each other record found with
  | inl isOverdue =>
      cases List.mem_cons.mp isOverdue with
      | inl isKey =>
          subst isKey
          rw [absent] at found
          cases found
      | inr inRest => exact Or.inl inRest
  | inr isOwn => exact Or.inr isOwn

theorem OwnRecords.prepareKey {newRun : String} {newKey : MasterKey}
    (own : OwnRecords cipher backup migrationKeys runId)
    (fresh : migrationKeys.find newRun = none) :
    OwnRecords cipher backup (migrationKeys.put newRun newKey) runId := by
  obtain ⟨migrationKey, held, each⟩ := own
  have different : runId ≠ newRun := by
    intro same
    rw [← same, held] at fresh
    cases fresh
  exact ⟨migrationKey, (Table.find_put_of_ne different).trans held, each⟩

theorem OwnRecords.discard
    (own : OwnRecords cipher backup migrationKeys runId) :
    OwnRecords cipher ∅ migrationKeys runId := by
  obtain ⟨migrationKey, held, _⟩ := own
  refine ⟨migrationKey, held, ?_⟩
  intro key record found
  rw [Table.find_empty] at found
  cases found

end

/-! ## The invariant -/

section Invariant

variable (cipher : Sealing MasterKey Nonce)

def Device.reliesOn (device : Device) : Process → Prop
  | .preparingKey | .rollingBackKeyslot _ _ | .rollingBackKek _ _
  | .settingStatus _ _ | .discardingRecords _ _ | .discardingKey _ _ =>
      swapDue device.phase = none
  | .listing runId =>
      swapDue device.phase = none ∧
        (device.migrationKeys.find runId).isSome = true
  | .backingUp runId rest =>
      swapDue device.phase = none ∧
        OwnRecordsExcept cipher device.backup device.migrationKeys runId rest
  | .upserting runId key ciphertext rest =>
      swapDue device.phase = none ∧
        OwnRecordsExcept cipher device.backup device.migrationKeys runId
          (key :: rest) ∧
        ∃ migrationKey, device.migrationKeys.find runId = some migrationKey ∧
          (cipher.decrypt migrationKey ciphertext (aadOf key)).isSome = true
  | .handshaking runId | .storingKeyslot runId _ | .openingSession runId _
  | .confirming runId | .admitting runId _ | .trusting runId _ =>
      swapDue device.phase = none ∧
        OwnRecords cipher device.backup device.migrationKeys runId
  | .savingAddress runId _ | .counting runId _ | .listingRecords runId _
  | .savingPhase _ (some (.prepared runId)) _
  | .savingPhase _ (some (.handshakeDone runId _)) _ =>
      OwnRecords cipher device.backup device.migrationKeys runId
  | .swapping runId _ rest =>
      ∃ migrationKey, device.migrationKeys.find runId = some migrationKey ∧
        ∀ entry ∈ rest, entry.2.IsOwn cipher runId migrationKey entry.1
  | .stopped | .idle _ | .savingPhase _ none _
  | .savingPhase _ (some (.swapped _ _)) _ => True

/-- The records of a run whose swap is due are its own, also after a crash. -/
structure Isolated (device : Device) : Prop where
  due : ∀ runId, swapDue device.phase = some runId →
    OwnRecords cipher device.backup device.migrationKeys runId
  running : device.reliesOn cipher device.process

end Invariant

section Steps

variable {cipher : Sealing MasterKey Nonce} {blobFiles : BlobFileCodec}
variable {localScope : String}
variable {device after : Device} {action : Action}

/-- A leftover record is overwritten: its row has inline data when the run
lists the rows, and still has it when its turn comes. -/
def Device.overwritesLeftovers (device : Device) (action : Action) : Bool :=
  match device.process, action with
  | .listing _, .list _ =>
      device.backup.rows.all fun entry =>
        (device.representations.readMainInlineData entry.1).isSome
  | .backingUp _ (key :: _), .backUp _ =>
      (device.backup.find key).isNone ||
        (device.representations.readMainInlineData key).isSome
  | _, _ => true

def OverwritesLeftovers (device : Device) (action : Action) : Prop :=
  device.overwritesLeftovers action = true

instance (device : Device) (action : Action) :
    Decidable (OverwritesLeftovers device action) :=
  inferInstanceAs (Decidable (_ = true))

theorem isolated_failed {next : Process} (isolated : Isolated cipher device)
    (led : device.process.afterFailure = some next) :
    Isolated cipher { device with process := next } := by
  refine ⟨isolated.due, ?_⟩
  have running := isolated.running
  cases before : device.process with
  | backingUp runId rest =>
      rw [before] at led running
      cases rest with
      | nil => cases led
      | cons key rest =>
          cases led
          exact running.1
  | savingAddress runId targetSpaceId =>
      rw [before] at led running
      cases led
      exact running
  | swapping runId targetSpaceId rest =>
      rw [before] at led
      cases rest with
      | nil => cases led
      | cons entry rest =>
          cases led
          trivial
  | discardingRecords runId switched =>
      rw [before] at led running
      cases runId with
      | none =>
          cases led
          trivial
      | some runId =>
          cases led
          exact running
  | savingPhase =>
      rw [before] at led
      cases led
      trivial
  | _ =>
      rw [before] at led running
      first
      | cases led; done
      | cases led; exact running
      | cases led; exact running.1
      | cases led; trivial

theorem reliesOn_afterSave {phase : Option MigrationPhase} {switched : Bool}
    (relies : device.reliesOn cipher (.savingPhase true phase switched)) :
    { device with phase := phase }.reliesOn cipher
      (afterSave switched phase) := by
  cases phase with
  | none => trivial
  | some phase =>
      cases phase with
      | prepared runId => exact ⟨rfl, relies⟩
      | handshakeDone runId targetSpaceId => exact relies
      | swapped runId targetSpaceId => exact rfl

theorem reliesOn_resumeProcess
    (due : ∀ runId, swapDue device.phase = some runId →
      OwnRecords cipher device.backup device.migrationKeys runId) :
    device.reliesOn cipher (resumeProcess device.phase) := by
  cases recorded : device.phase with
  | none => trivial
  | some phase =>
      cases phase with
      | prepared runId =>
          show swapDue device.phase = none
          rw [recorded]
          rfl
      | handshakeDone runId targetSpaceId =>
          apply due
          rw [recorded]
          rfl
      | swapped runId targetSpaceId =>
          show swapDue device.phase = none
          rw [recorded]
          rfl

theorem reliesOn_backUp {nonce : Nonce} {runId : String} {key : RepKey}
    {rest : List RepKey}
    (relies : device.reliesOn cipher (.backingUp runId (key :: rest)))
    (overwritten : ((device.backup.find key).isNone ||
      (device.representations.readMainInlineData key).isSome) = true) :
    device.reliesOn cipher
      (device.backUp cipher nonce runId key rest) := by
  obtain ⟨notDue, own⟩ := relies
  obtain skipped | gaveUp | encrypted := backUp_cases cipher device nonce
    runId key rest
  · obtain ⟨noInline, next⟩ := skipped
    have absent : device.backup.find key = none := by
      cases found : device.backup.find key with
      | none => rfl
      | some record =>
          rw [found, noInline] at overwritten
          cases overwritten
    rw [next]
    exact ⟨notDue, own.skip absent⟩
  · rw [gaveUp]
    exact notDue
  · obtain ⟨bytes, masterKey, plaintext, migrationKey, _, _, _, held, next⟩ :=
      encrypted
    rw [next]
    refine ⟨notDue, own, migrationKey, held, ?_⟩
    rw [cipher.decrypt_encrypt]
    rfl

theorem reliesOn_swapRecord {nonce : Nonce} {runId targetSpaceId : String}
    {key : RepKey} {record : MigrationRecord}
    {rest : List (RepKey × MigrationRecord)}
    (relies : device.reliesOn cipher
      (.swapping runId targetSpaceId ((key, record) :: rest))) :
    (device.swapRecord cipher nonce runId targetSpaceId key record
      rest).reliesOn cipher (device.swapRecord cipher nonce runId targetSpaceId
        key record rest).process := by
  obtain ⟨migrationKey, held, each⟩ := relies
  obtain gaveUp | swapped := swapRecord_cases cipher device nonce runId
    targetSpaceId key record rest
  · rw [gaveUp]
    trivial
  · obtain ⟨_, _, _, _, _, _, _, _, next⟩ := swapped
    rw [next]
    exact ⟨migrationKey, held, fun entry inRest =>
      each entry (List.mem_cons_of_mem _ inRest)⟩

theorem due_swapRecord {nonce : Nonce} {runId targetSpaceId : String}
    {key : RepKey} {record : MigrationRecord}
    {rest : List (RepKey × MigrationRecord)}
    (isolated : Isolated cipher device) :
    ∀ other, swapDue (device.swapRecord cipher nonce runId targetSpaceId key
        record rest).phase = some other →
      OwnRecords cipher (device.swapRecord cipher nonce runId targetSpaceId key
        record rest).backup (device.swapRecord cipher nonce runId targetSpaceId
          key record rest).migrationKeys other := by
  obtain gaveUp | swapped := swapRecord_cases cipher device nonce runId
    targetSpaceId key record rest
  · rw [gaveUp]
    exact isolated.due
  · obtain ⟨_, _, _, _, _, _, _, _, next⟩ := swapped
    rw [next]
    exact isolated.due

theorem isolated_step (isolated : Isolated cipher device)
    (overwrites : OverwritesLeftovers device action)
    (effect : Effect cipher blobFiles localScope device action after) :
    Isolated cipher after := by
  have running := isolated.running
  cases effect with
  | began idle noPhase =>
      refine ⟨isolated.due, ?_⟩
      show swapDue device.phase = none
      rw [noPhase]
      rfl
  | keyPrepared preparing freshRun freshKey =>
      rw [preparing] at running
      refine ⟨fun other isDue => (isolated.due other isDue).prepareKey freshRun,
        running, ?_⟩
      show ((device.migrationKeys.put _ _).find _).isSome = true
      rw [Table.find_put_self]
      rfl
  | listed listing permuted =>
      rw [listing] at running
      obtain ⟨notDue, isHeld⟩ := running
      obtain ⟨migrationKey, held⟩ := Option.isSome_iff_exists.mp isHeld
      refine ⟨isolated.due, notDue, migrationKey, held, ?_⟩
      intro key record found
      unfold OverwritesLeftovers Device.overwritesLeftovers at overwrites
      rw [listing] at overwrites
      have hasInline := List.all_eq_true.mp overwrites (key, record)
        (Table.mem_rows_iff.mpr found)
      obtain ⟨bytes, read⟩ := Option.isSome_iff_exists.mp hasInline
      apply Or.inl
      apply permuted.mem_iff.mpr
      obtain ⟨row, isRow, inlineData⟩ := readMainInlineData_eq_some_iff.mp read
      exact mem_mainInlineRepresentations.mpr ⟨row, bytes, isRow, inlineData⟩
  | backedUp backingUp =>
      rw [backingUp] at running
      unfold OverwritesLeftovers Device.overwritesLeftovers at overwrites
      rw [backingUp] at overwrites
      exact ⟨isolated.due, reliesOn_backUp running overwrites⟩
  | upserted upserting =>
      rw [upserting] at running
      obtain ⟨notDue, own, migrationKey, held, opens⟩ := running
      refine ⟨?_, notDue, own.put held opens⟩
      intro other isDue
      rw [notDue] at isDue
      cases isDue
  | prepared backingUp =>
      rw [backingUp] at running
      exact ⟨isolated.due, running.2⟩
  | truncated saving =>
      rw [saving] at running
      refine ⟨fun other isDue => ?_, ?_⟩
      · cases isDue
      · rename_i phase switched
        cases phase with
        | none => trivial
        | some phase => cases phase <;> exact running
  | saved saving =>
      rw [saving] at running
      refine ⟨?_, reliesOn_afterSave running⟩
      intro other isDue
      rename_i phase switched
      cases phase with
      | none => cases isDue
      | some phase =>
          cases phase with
          | handshakeDone runId targetSpaceId =>
              cases isDue
              exact running
          | _ => cases isDue
  | kekStored handshaking =>
      rw [handshaking] at running
      exact ⟨isolated.due, running⟩
  | keyslotStored storing =>
      rw [storing] at running
      exact ⟨isolated.due, running⟩
  | keyslotRolledBack rollingBack =>
      rw [rollingBack] at running
      exact ⟨isolated.due, running⟩
  | kekRolledBack rollingBack =>
      rw [rollingBack] at running
      exact ⟨isolated.due, running⟩
  | sessionOpened opening =>
      rw [opening] at running
      exact ⟨isolated.due, running⟩
  | confirmed confirming =>
      rw [confirming] at running
      exact ⟨isolated.due, running⟩
  | admitted admitting =>
      rw [admitting] at running
      exact ⟨isolated.due, running⟩
  | trusted trusting =>
      rw [trusting] at running
      exact ⟨isolated.due, running.2⟩
  | addressSaved saving =>
      rw [saving] at running
      exact ⟨isolated.due, running⟩
  | counted counting =>
      rw [counting] at running
      exact ⟨isolated.due, running⟩
  | recordsListed listing permuted =>
      rw [listing] at running
      obtain ⟨migrationKey, held, each⟩ := running
      refine ⟨isolated.due, migrationKey, held, ?_⟩
      intro entry listed
      have found := Table.mem_rows_iff.mp (permuted.mem_iff.mp listed)
      cases each entry.1 entry.2 found with
      | inl isOverdue => cases isOverdue
      | inr isOwn => exact isOwn
  | recordSwapped swapping =>
      rw [swapping] at running
      exact ⟨due_swapRecord isolated, reliesOn_swapRecord running⟩
  | allSwapped swapping => exact ⟨isolated.due, trivial⟩
  | statusSet setting =>
      rw [setting] at running
      exact ⟨isolated.due, running⟩
  | recordsAbandoned discarding =>
      exact ⟨fun other isDue => (isolated.due other isDue).discard, trivial⟩
  | recordsDiscarded discarding =>
      rw [discarding] at running
      exact ⟨fun other isDue => (isolated.due other isDue).discard, running⟩
  | keyDiscarded discarding =>
      rw [discarding] at running
      refine ⟨?_, trivial⟩
      intro other isDue
      rw [running] at isDue
      cases isDue
  | failed led => exact isolated_failed isolated led
  | crashed => exact ⟨isolated.due, trivial⟩
  | unlocked stopped holds =>
      exact ⟨isolated.due, reliesOn_resumeProcess isolated.due⟩
  | resumed idle =>
      exact ⟨isolated.due, reliesOn_resumeProcess isolated.due⟩
  | captured isCapture stepped =>
      have same := sameSwitch_of_capture isCapture stepped
      refine ⟨?_, ?_⟩
      · rw [same.phase, same.backup, same.migrationKeys]
        exact isolated.due
      · unfold Device.reliesOn at running ⊢
        simpa only [same.process, same.phase, same.backup,
          same.migrationKeys] using running

/-- Whatever happens between the runs of the switch and during them, phase 3
reads only records that its own run wrote and that open under its migration
key, as long as every leftover record is overwritten. -/
theorem runsIsolated {start : Device} {switched : Bool}
    {runId targetSpaceId : String} {rest : List (RepKey × MigrationRecord)}
    (idle : start.process = .idle switched) (noPhase : start.phase = none)
    (run : Run (Device.step cipher blobFiles localScope) OverwritesLeftovers start device)
    (reading : device.process = .swapping runId targetSpaceId rest) :
    ∃ migrationKey, device.migrationKeys.find runId = some migrationKey ∧
      ∀ entry ∈ rest, entry.2.IsOwn cipher runId migrationKey entry.1 := by
  have initially : Isolated cipher start := by
    refine ⟨?_, ?_⟩
    · intro other isDue
      rw [noPhase] at isDue
      cases isDue
    · rw [idle]
      trivial
  have isolated : Isolated cipher device :=
    run.preserves initially fun before action after holds overwrites stepped =>
      isolated_step holds overwrites (effect_of_step stepped)
  have running := isolated.running
  rw [reading] at running
  exact running

end Steps

/-! ## Two runs -/

/-- After a crash the second run backs the same row up again, and so reads its
own record. -/
theorem runsIsolated_overwritten_record :
    ∃ device, Run (Device.step sampleCipher sampleBlobFiles sampleScope) OverwritesLeftovers
        sampleDevice device ∧
      device.process = .swapping "run-2" "space-2"
        [(sampleRow, sampleRecord 8 "run-2")] ∧
      ∃ migrationKey, device.migrationKeys.find "run-2" = some migrationKey ∧
        ∀ entry ∈ [(sampleRow, sampleRecord 8 "run-2")],
          entry.2.IsOwn sampleCipher "run-2" migrationKey entry.1 := by
  let actions := backUpSample "run-1" 9 ++ [.crash, .unlock none] ++
    backUpSample "run-2" 8 ++ handshakeSample 2 ++
      [.listRecords [(sampleRow, sampleRecord 8 "run-2")]]
  let step := Device.step sampleCipher sampleBlobFiles sampleScope
  have guarded : Guarded step OverwritesLeftovers sampleDevice actions := by
    decide +kernel
  have ended : (execute step sampleDevice actions).map Device.process =
      some (.swapping "run-2" "space-2"
        [(sampleRow, sampleRecord 8 "run-2")]) := by
    decide +kernel
  obtain ⟨device, executed, reading⟩ := Option.map_eq_some_iff.mp ended
  have run := Run.ofExecute guarded executed
  exact ⟨device, run, reading, runsIsolated rfl rfl run reading⟩

/-- A run crashes after its backup, the entry is deleted, and the next run
reads the record that is left: after the keys are replaced it cannot decrypt
it and stops. -/
theorem leftover_record_is_read :
    let beforeSwap := backUpSample "run-1" 9 ++
      [.crash, .unlock none, .deleteEvent "event-1"] ++
        [.begin, .prepareKey "run-2" (sampleKey 8), .list []] ++
          handshakeSample 2 ++
          [.listRecords [(sampleRow, sampleRecord 9 "run-1")]]
    (execute (Device.step sampleCipher sampleBlobFiles sampleScope) sampleDevice
        beforeSwap).map Device.process =
      some (.swapping "run-2" "space-2"
        [(sampleRow, sampleRecord 9 "run-1")]) ∧
    (execute (Device.step sampleCipher sampleBlobFiles sampleScope) sampleDevice
        (beforeSwap ++ [.swap sampleNonce])).map
          (fun device => (device.process, device.phase, device.session)) =
      some (.idle false, some (.handshakeDone "run-2" "space-2"),
        some (sampleKey 2)) := by
  decide +kernel

end OpenClipboard.SwitchSpace
