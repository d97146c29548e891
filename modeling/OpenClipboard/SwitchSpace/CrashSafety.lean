import OpenClipboard.SwitchSpace.Effects

/-!
# A switch that stops half-way

The history that is readable before the switch lives in the main table under
the old key until the phase says that a swap is due, and in the backup from
then on.  The handshake replaces the keyslot before that is recorded: a stop
in between leaves a device that unlocks with the new key, takes the run for
abandoned and drops the backup.
-/

namespace OpenClipboard.SwitchSpace

open OpenClipboard RepresentationTable Transition

section Reading

variable (cipher : Sealing MasterKey Nonce)

/-- The row's inline data opens to a plaintext. -/
def Reads (table : RepresentationTable) (masterKey : MasterKey) (key : RepKey)
    (plaintext : List UInt8) : Prop :=
  ∃ bytes, table.readMainInlineData key = some bytes ∧
    cipher.decrypt masterKey bytes (aadOf key) = some plaintext

instance (table : RepresentationTable) (masterKey : MasterKey) (key : RepKey)
    (plaintext : List UInt8) :
    Decidable (Reads cipher table masterKey key plaintext) :=
  decidable_of_iff ((table.readMainInlineData key).bind
    (fun bytes => cipher.decrypt masterKey bytes (aadOf key)) = some plaintext)
    Option.bind_eq_some_iff

/-- The row's record opens to a plaintext under a run's migration key. -/
def Backs (backup : Table RepKey MigrationRecord)
    (migrationKeys : Table String MasterKey) (runId : String) (key : RepKey)
    (plaintext : List UInt8) : Prop :=
  ∃ migrationKey record, migrationKeys.find runId = some migrationKey ∧
    backup.find key = some record ∧
    cipher.decrypt migrationKey record.ciphertext (aadOf key) = some plaintext

end Reading

section

variable {cipher : Sealing MasterKey Nonce}
variable {table updated : RepresentationTable} {masterKey : MasterKey}
variable {key other : RepKey} {plaintext wanted : List UInt8} {nonce : Nonce}

theorem Reads.present (reads : Reads cipher table masterKey key plaintext) :
    (table.findRep key).isSome = true := by
  obtain ⟨bytes, read, _⟩ := reads
  obtain ⟨row, found, _⟩ := readMainInlineData_eq_some_iff.mp read
  rw [found]
  rfl

theorem Reads.of_update
    (present : (table.findRep key).isSome = true)
    (isUpdated : table.updateMainInlineData key
      (cipher.encrypt masterKey nonce plaintext (aadOf key)) = some updated) :
    Reads cipher updated masterKey key plaintext := by
  refine ⟨_, readMainInlineData_updateMainInlineData present isUpdated, ?_⟩
  exact cipher.decrypt_encrypt _ _ _ _

theorem Reads.update_of_ne {bytes : List UInt8}
    (reads : Reads cipher table masterKey other wanted)
    (different : other ≠ key)
    (isUpdated : table.updateMainInlineData key bytes = some updated) :
    Reads cipher updated masterKey other wanted := by
  unfold Reads
  rw [readMainInlineData_updateMainInlineData_of_ne different isUpdated]
  exact reads

end

/-! ## The invariant -/

/-- The handshake has replaced the keyslot and the due swap is not yet
recorded. -/
def Process.replacesKeys : Process → Bool
  | .openingSession _ _ | .confirming _ | .admitting _ _ | .trusting _ _
  | .savingAddress _ _ | .savingPhase _ (some (.handshakeDone _ _)) _ => true
  | _ => false

section Invariant

variable (cipher : Sealing MasterKey Nonce)
variable (history : RepKey → List UInt8 → Prop)

def Device.Agrees (device : Device) : Prop :=
  ∃ slot, device.keyslot = some slot ∧ device.session = some slot.masterKey

/-- The keyslot's master key reads the whole history. -/
def Device.HoldsHistory (device : Device) : Prop :=
  ∃ slot, device.keyslot = some slot ∧ ∀ key plaintext,
    history key plaintext →
      Reads cipher device.representations slot.masterKey key plaintext

def Device.BacksHistory (device : Device) (runId : String) : Prop :=
  ∀ key plaintext, history key plaintext →
    Backs cipher device.backup device.migrationKeys runId key plaintext

def Device.BacksExcept (device : Device) (runId : String)
    (overdue : List RepKey) : Prop :=
  ∀ key plaintext, history key plaintext → key ∈ overdue ∨
    Backs cipher device.backup device.migrationKeys runId key plaintext

/-- What the process relies on at its next effect. -/
def Device.safeFor (device : Device) : Process → Prop
  | .stopped => True
  | .idle _ => device.Agrees
  | .preparingKey | .listing _ | .rollingBackKeyslot _ _ | .rollingBackKek _ _
  | .settingStatus _ _ | .discardingRecords _ _ | .discardingKey _ _
  | .savingPhase _ none _ =>
      swapDue device.phase = none ∧ device.Agrees
  | .backingUp runId rest =>
      swapDue device.phase = none ∧ device.Agrees ∧
        device.BacksExcept cipher history runId rest
  | .upserting runId key ciphertext rest =>
      swapDue device.phase = none ∧ device.Agrees ∧
        device.BacksExcept cipher history runId (key :: rest) ∧
        ∃ migrationKey, device.migrationKeys.find runId = some migrationKey ∧
          ∀ plaintext, history key plaintext →
            cipher.decrypt migrationKey ciphertext (aadOf key) = some plaintext
  | .savingPhase _ (some (.prepared runId)) _ | .handshaking runId
  | .storingKeyslot runId _ =>
      swapDue device.phase = none ∧ device.Agrees ∧
        device.BacksHistory cipher history runId
  | .openingSession runId slot =>
      device.keyslot = some slot ∧ device.BacksHistory cipher history runId
  | .confirming runId | .admitting runId _ | .trusting runId _
  | .savingAddress runId _ | .savingPhase _ (some (.handshakeDone runId _)) _ =>
      device.Agrees ∧ device.BacksHistory cipher history runId
  | .counting runId _ | .listingRecords runId _ =>
      swapDue device.phase = some runId ∧ device.Agrees
  | .swapping runId _ rest =>
      swapDue device.phase = some runId ∧ device.Agrees ∧
        (∀ entry ∈ rest, device.backup.find entry.1 = some entry.2) ∧
        ∀ key plaintext, history key plaintext → key ∈ rest.map Prod.fst ∨
          ∃ masterKey, device.session = some masterKey ∧
            Reads cipher device.representations masterKey key plaintext
  | .savingPhase _ (some (.swapped _ _)) _ =>
      device.Agrees ∧ device.HoldsHistory cipher history

/-- Where the history is while the keys are not being replaced. -/
def Device.Stores (device : Device) : Prop :=
  match swapDue device.phase with
  | some runId => device.BacksHistory cipher history runId
  | none => device.HoldsHistory cipher history

structure CrashSafe (device : Device) : Prop where
  present : ∀ key plaintext, history key plaintext →
    (device.representations.findRep key).isSome = true
  stored : device.process.replacesKeys = false → device.Stores cipher history
  running : device.safeFor cipher history device.process

end Invariant

/-! ## Steps -/

/-- Nothing stops the device between the new keyslot and the record that a
swap is due, and no rollback deletes its keyslot.  An address that is not
saved stops nothing. -/
def Device.staysUndisturbed (device : Device) : Action → Bool
  | .crash => !device.process.replacesKeys
  | .fail =>
      match device.process with
      | .savingAddress _ _ => true
      | process => !process.replacesKeys
  | .proceed =>
      match device.process with
      | .rollingBackKeyslot _ slot =>
          device.keyslot.all fun held => held.scope != slot.scope
      | _ => true
  | _ => true

/-- The guard of a run of the switch alone that is not stopped while the keys
are replaced. -/
def Undisturbed (device : Device) (action : Action) : Prop :=
  action.isCapture = false ∧ device.staysUndisturbed action = true

instance (device : Device) (action : Action) :
    Decidable (Undisturbed device action) :=
  inferInstanceAs (Decidable (_ ∧ _))

section Steps

variable {cipher : Sealing MasterKey Nonce} {blobFiles : BlobFileCodec}
variable {localScope : String}
variable {history : RepKey → List UInt8 → Prop}
variable {device after : Device} {action : Action}

theorem Device.Stores.holds (stores : device.Stores cipher history)
    (notDue : swapDue device.phase = none) :
    device.HoldsHistory cipher history := by
  unfold Device.Stores at stores
  rw [notDue] at stores
  exact stores

theorem Device.Stores.backs {runId : String}
    (stores : device.Stores cipher history)
    (due : swapDue device.phase = some runId) :
    device.BacksHistory cipher history runId := by
  unfold Device.Stores at stores
  rw [due] at stores
  exact stores

theorem Device.Stores.frame (stores : device.Stores cipher history)
    (notDue : swapDue device.phase = none)
    (samePhase : after.phase = device.phase)
    (sameKeyslot : after.keyslot = device.keyslot)
    (sameTable : after.representations = device.representations) :
    after.Stores cipher history := by
  unfold Device.Stores
  rw [samePhase, notDue]
  unfold Device.HoldsHistory
  rw [sameKeyslot, sameTable]
  exact stores.holds notDue

theorem Device.HoldsHistory.reads {masterKey : MasterKey} {key : RepKey}
    {plaintext : List UInt8} (holds : device.HoldsHistory cipher history)
    (agrees : device.Agrees) (inSession : device.session = some masterKey)
    (tracked : history key plaintext) :
    Reads cipher device.representations masterKey key plaintext := by
  obtain ⟨slot, isSlot, reads⟩ := holds
  obtain ⟨other, isOther, ofOther⟩ := agrees
  rw [isSlot, Option.some.injEq] at isOther
  subst isOther
  rw [inSession, Option.some.injEq] at ofOther
  subst ofOther
  exact reads key plaintext tracked

theorem safeFor_backUp {nonce : Nonce} {runId : String} {key : RepKey}
    {rest : List RepKey} (holds : device.HoldsHistory cipher history)
    (relies : device.safeFor cipher history (.backingUp runId (key :: rest))) :
    device.safeFor cipher history
      (device.backUp cipher nonce runId key rest) := by
  obtain ⟨notDue, agrees, backs⟩ := relies
  obtain skipped | gaveUp | encrypted := backUp_cases cipher device nonce
    runId key rest
  · obtain ⟨noInline, next⟩ := skipped
    rw [next]
    refine ⟨notDue, agrees, ?_⟩
    intro other plaintext tracked
    cases backs other plaintext tracked with
    | inr backed => exact Or.inr backed
    | inl isOverdue =>
        cases List.mem_cons.mp isOverdue with
        | inr inRest => exact Or.inl inRest
        | inl isKey =>
            obtain ⟨slot, _, reads⟩ := holds
            obtain ⟨bytes, read, _⟩ := reads other plaintext tracked
            rw [isKey, noInline] at read
            cases read
  · rw [gaveUp]
    exact ⟨notDue, agrees⟩
  · obtain ⟨bytes, masterKey, plaintext, migrationKey, read, inSession, opened,
      held, next⟩ := encrypted
    rw [next]
    refine ⟨notDue, agrees, backs, migrationKey, held, ?_⟩
    intro wanted tracked
    obtain ⟨other, otherRead, otherOpened⟩ := holds.reads agrees inSession tracked
    rw [read, Option.some.injEq] at otherRead
    subst otherRead
    rw [opened] at otherOpened
    rw [cipher.decrypt_encrypt]
    exact otherOpened

theorem backsExcept_upsert {runId : String} {key : RepKey}
    {ciphertext : List UInt8} {rest : List RepKey} {migrationKey : MasterKey}
    (backs : device.BacksExcept cipher history runId (key :: rest))
    (held : device.migrationKeys.find runId = some migrationKey)
    (opens : ∀ plaintext, history key plaintext →
      cipher.decrypt migrationKey ciphertext (aadOf key) = some plaintext) :
    { device with
      backup := device.backup.put key ⟨ciphertext, runId⟩ }.BacksExcept
        cipher history runId rest := by
  intro other plaintext tracked
  by_cases same : other = key
  · subst same
    exact Or.inr ⟨migrationKey, _, held, Table.find_put_self,
      opens plaintext tracked⟩
  · cases backs other plaintext tracked with
    | inl isOverdue =>
        cases List.mem_cons.mp isOverdue with
        | inl isKey => exact absurd isKey same
        | inr inRest => exact Or.inl inRest
    | inr backed =>
        obtain ⟨otherKey, record, otherHeld, found, opened⟩ := backed
        exact Or.inr ⟨otherKey, record, otherHeld,
          (Table.find_put_of_ne same).trans found, opened⟩

theorem crashSafe_recordSwapped {nonce : Nonce} {runId targetSpaceId : String}
    {key : RepKey} {record : MigrationRecord}
    {rest : List (RepKey × MigrationRecord)}
    (safe : CrashSafe cipher history device)
    (swapping :
      device.process = .swapping runId targetSpaceId ((key, record) :: rest)) :
    CrashSafe cipher history (device.swapRecord cipher nonce runId
      targetSpaceId key record rest) := by
  have relies := safe.running
  have stores := safe.stored
  rw [swapping] at relies stores
  obtain ⟨due, agrees, ofBackup, reads⟩ := relies
  have backs := (stores rfl).backs due
  obtain gaveUp | swapped := swapRecord_cases cipher device nonce runId
    targetSpaceId key record rest
  · rw [gaveUp]
    exact ⟨safe.present, fun _ => stores rfl, agrees⟩
  · obtain ⟨migrationKey, plaintext, masterKey, updated, held, opened,
      inSession, isUpdated, next⟩ := swapped
    rw [next]
    refine ⟨?_, ?_, due, agrees, ?_, ?_⟩
    · intro other wanted tracked
      have isPresent := safe.present other wanted tracked
      by_cases same : other = key
      · subst same
        exact (Reads.of_update isPresent isUpdated).present
      · show (updated.findRep other).isSome = true
        rw [findRep_updateMainInlineData_of_ne same isUpdated]
        exact isPresent
    · intro _
      unfold Device.Stores
      rw [due]
      exact backs
    · exact fun entry inRest => ofBackup entry (List.mem_cons_of_mem _ inRest)
    · intro other wanted tracked
      by_cases same : other = key
      · -- the record is the one that backs the row, so it has its plaintext
        subst same
        obtain ⟨otherKey, otherRecord, otherHeld, found, otherOpened⟩ :=
          backs other wanted tracked
        rw [held, Option.some.injEq] at otherHeld
        subst otherHeld
        have isRecord := ofBackup _ List.mem_cons_self
        rw [isRecord, Option.some.injEq] at found
        subst found
        rw [opened, Option.some.injEq] at otherOpened
        subst otherOpened
        exact Or.inr ⟨masterKey, inSession,
          Reads.of_update (safe.present other _ tracked) isUpdated⟩
      · cases reads other wanted tracked with
        | inl waiting =>
            cases List.mem_cons.mp waiting with
            | inl isKey => exact absurd isKey same
            | inr inRest => exact Or.inl inRest
        | inr isRead =>
            obtain ⟨otherKey, otherSession, isReads⟩ := isRead
            exact Or.inr ⟨otherKey, otherSession,
              isReads.update_of_ne same isUpdated⟩

/-- An effect may fail wherever the keys are not being replaced. -/
theorem crashSafe_failed {next : Process}
    (safe : CrashSafe cipher history device)
    (undisturbed : device.staysUndisturbed .fail = true)
    (led : device.process.afterFailure = some next) :
    CrashSafe cipher history { device with process := next } := by
  have relies := safe.running
  have stores := safe.stored
  unfold Device.staysUndisturbed at undisturbed
  cases before : device.process with
  | backingUp runId rest =>
      rw [before] at led relies stores
      cases rest with
      | nil => cases led
      | cons key rest =>
          cases led
          exact ⟨safe.present, fun _ => stores rfl, relies.1, relies.2.1⟩
  | upserting runId key ciphertext rest =>
      rw [before] at led relies stores
      cases led
      exact ⟨safe.present, fun _ => stores rfl, relies.1, relies.2.1⟩
  | savingPhase truncated phase switched =>
      rw [before] at led relies stores undisturbed
      cases led
      cases phase with
      | none => exact ⟨safe.present, fun _ => stores rfl, relies.2⟩
      | some phase =>
          cases phase with
          | prepared runId =>
              exact ⟨safe.present, fun _ => stores rfl, relies.2.1⟩
          | handshakeDone runId targetSpaceId => cases undisturbed
          | swapped runId targetSpaceId =>
              exact ⟨safe.present, fun _ => stores rfl, relies.1⟩
  | handshaking runId =>
      rw [before] at led relies stores
      cases led
      exact ⟨safe.present, fun _ => stores rfl, relies.1, relies.2.1⟩
  | storingKeyslot runId slot =>
      rw [before] at led relies stores
      cases led
      exact ⟨safe.present, fun _ => stores rfl, relies.1, relies.2.1⟩
  | savingAddress runId targetSpaceId =>
      rw [before] at led relies
      cases led
      refine ⟨safe.present, ?_, relies⟩
      intro notReplacing
      cases notReplacing
  | counting runId targetSpaceId =>
      rw [before] at led relies stores
      cases led
      exact ⟨safe.present, fun _ => stores rfl, relies.2⟩
  | listingRecords runId targetSpaceId =>
      rw [before] at led relies stores
      cases led
      exact ⟨safe.present, fun _ => stores rfl, relies.2⟩
  | swapping runId targetSpaceId rest =>
      rw [before] at led relies stores
      cases rest with
      | nil => cases led
      | cons entry rest =>
          cases led
          exact ⟨safe.present, fun _ => stores rfl, relies.2.1⟩
  | settingStatus runId targetSpaceId =>
      rw [before] at led relies stores
      cases led
      exact ⟨safe.present, fun _ => stores rfl, relies.2⟩
  | discardingRecords runId switched =>
      rw [before] at led relies stores
      cases runId with
      | none =>
          cases led
          exact ⟨safe.present, fun _ => stores rfl, relies.2⟩
      | some runId =>
          cases led
          exact ⟨safe.present, fun _ => stores rfl, relies⟩
  | preparingKey =>
      rw [before] at led relies stores
      cases led
      exact ⟨safe.present, fun _ => stores rfl, relies⟩
  | listing runId =>
      rw [before] at led relies stores
      cases led
      exact ⟨safe.present, fun _ => stores rfl, relies⟩
  | rollingBackKeyslot runId slot =>
      rw [before] at led relies stores
      cases led
      exact ⟨safe.present, fun _ => stores rfl, relies⟩
  | rollingBackKek runId slot =>
      rw [before] at led relies stores
      cases led
      exact ⟨safe.present, fun _ => stores rfl, relies⟩
  | discardingKey runId switched =>
      rw [before] at led relies stores
      cases led
      exact ⟨safe.present, fun _ => stores rfl, relies⟩
  | stopped =>
      rw [before] at led
      cases led
  | idle switched =>
      rw [before] at led
      cases led
  | _ =>
      rw [before] at undisturbed
      cases undisturbed

theorem safeFor_resumeProcess (agrees : device.Agrees) :
    device.safeFor cipher history (resumeProcess device.phase) := by
  cases recorded : device.phase with
  | none => exact agrees
  | some phase =>
      cases phase with
      | prepared runId =>
          refine ⟨?_, agrees⟩
          rw [recorded]
          rfl
      | handshakeDone runId targetSpaceId =>
          refine ⟨?_, agrees⟩
          rw [recorded]
          rfl
      | swapped runId targetSpaceId =>
          refine ⟨?_, agrees⟩
          rw [recorded]
          rfl

theorem crashSafe_truncated {phase : Option MigrationPhase} {switched : Bool}
    (safe : CrashSafe cipher history device)
    (saving : device.process = .savingPhase false phase switched) :
    CrashSafe cipher history { device with
      phase := none
      process := .savingPhase true phase switched } := by
  have relies := safe.running
  have stores := safe.stored
  rw [saving] at relies stores
  cases phase with
  | none => exact ⟨safe.present, fun _ => (stores rfl).holds relies.1, rfl, relies.2⟩
  | some phase =>
      cases phase with
      | prepared runId =>
          exact ⟨safe.present, fun _ => (stores rfl).holds relies.1, rfl,
            relies.2⟩
      | handshakeDone runId targetSpaceId =>
          refine ⟨safe.present, ?_, relies⟩
          intro notReplacing
          cases notReplacing
      | swapped runId targetSpaceId =>
          exact ⟨safe.present, fun _ => relies.2, relies⟩

theorem crashSafe_saved {phase : Option MigrationPhase} {switched : Bool}
    (safe : CrashSafe cipher history device)
    (saving : device.process = .savingPhase true phase switched) :
    CrashSafe cipher history { device with
      phase := phase
      process := afterSave switched phase } := by
  have relies := safe.running
  have stores := safe.stored
  rw [saving] at relies stores
  cases phase with
  | none => exact ⟨safe.present, fun _ => (stores rfl).holds relies.1, relies.2⟩
  | some phase =>
      cases phase with
      | prepared runId =>
          exact ⟨safe.present, fun _ => (stores rfl).holds relies.1, rfl,
            relies.2⟩
      | handshakeDone runId targetSpaceId =>
          exact ⟨safe.present, fun _ => relies.2, rfl, relies.1⟩
      | swapped runId targetSpaceId =>
          exact ⟨safe.present, fun _ => relies.2, rfl, relies.1⟩

/-- One undisturbed step keeps the history where it can be read. -/
theorem crashSafe_step (safe : CrashSafe cipher history device)
    (undisturbed : Undisturbed device action)
    (effect : Effect cipher blobFiles localScope device action after) :
    CrashSafe cipher history after := by
  have relies := safe.running
  have stores := safe.stored
  obtain ⟨notCapture, calm⟩ := undisturbed
  cases effect with
  | began idle noPhase =>
      rw [idle] at relies stores
      refine ⟨safe.present, fun _ => stores rfl, ?_, relies⟩
      rw [noPhase]
      rfl
  | keyPrepared preparing freshRun freshKey =>
      rw [preparing] at relies stores
      exact ⟨safe.present, fun _ => (stores rfl).frame relies.1 rfl rfl rfl,
        relies⟩
  | listed listing permuted =>
      rw [listing] at relies stores
      refine ⟨safe.present, fun _ => stores rfl, relies.1, relies.2, ?_⟩
      intro key plaintext tracked
      obtain ⟨slot, _, reads⟩ := (stores rfl).holds relies.1
      obtain ⟨bytes, read, _⟩ := reads key plaintext tracked
      obtain ⟨row, found, hasInline⟩ := readMainInlineData_eq_some_iff.mp read
      apply Or.inl
      apply permuted.mem_iff.mpr
      exact mem_mainInlineRepresentations.mpr ⟨row, bytes, found, hasInline⟩
  | backedUp backingUp =>
      rw [backingUp] at relies stores
      exact ⟨safe.present, fun _ => stores rfl,
        safeFor_backUp ((stores rfl).holds relies.1) relies⟩
  | upserted upserting =>
      rw [upserting] at relies stores
      obtain ⟨notDue, agrees, backs, migrationKey, held, opens⟩ := relies
      exact ⟨safe.present, fun _ => (stores rfl).frame notDue rfl rfl rfl, notDue,
        agrees, backsExcept_upsert backs held opens⟩
  | prepared backingUp =>
      rw [backingUp] at relies stores
      obtain ⟨notDue, agrees, backs⟩ := relies
      refine ⟨safe.present, fun _ => stores rfl, notDue, agrees, ?_⟩
      intro key plaintext tracked
      cases backs key plaintext tracked with
      | inl isOverdue => cases isOverdue
      | inr backed => exact backed
  | truncated saving => exact crashSafe_truncated safe saving
  | saved saving => exact crashSafe_saved safe saving
  | kekStored handshaking =>
      rw [handshaking] at relies stores
      exact ⟨safe.present, fun _ => stores rfl, relies⟩
  | keyslotStored storing =>
      rw [storing] at relies
      refine ⟨safe.present, ?_, rfl, relies.2.2⟩
      intro notReplacing
      cases notReplacing
  | keyslotRolledBack rollingBack =>
      rw [rollingBack] at relies stores
      obtain ⟨notDue, agrees⟩ := relies
      obtain ⟨held, isHeld, inSession⟩ := agrees
      simp only [Device.staysUndisturbed, rollingBack, isHeld, Option.all_some]
        at calm
      rename_i runId offered
      have kept :
          device.keyslot.filter (fun held => held.scope != offered.scope) =
          device.keyslot := by
        rw [isHeld, Option.filter_some, if_pos calm]
      exact ⟨safe.present, fun _ => (stores rfl).frame notDue rfl kept rfl,
        notDue, held, kept.trans isHeld, inSession⟩
  | kekRolledBack rollingBack =>
      rw [rollingBack] at relies stores
      exact ⟨safe.present, fun _ => stores rfl, relies⟩
  | sessionOpened opening =>
      rw [opening] at relies
      refine ⟨safe.present, ?_, ⟨_, relies.1, rfl⟩, relies.2⟩
      intro notReplacing
      cases notReplacing
  | confirmed confirming =>
      rw [confirming] at relies
      refine ⟨safe.present, ?_, relies⟩
      intro notReplacing
      cases notReplacing
  | admitted admitting =>
      rw [admitting] at relies
      refine ⟨safe.present, ?_, relies⟩
      intro notReplacing
      cases notReplacing
  | trusted trusting =>
      rw [trusting] at relies
      refine ⟨safe.present, ?_, relies⟩
      intro notReplacing
      cases notReplacing
  | addressSaved saving =>
      rw [saving] at relies
      refine ⟨safe.present, ?_, relies⟩
      intro notReplacing
      cases notReplacing
  | counted counting =>
      rw [counting] at relies stores
      exact ⟨safe.present, fun _ => stores rfl, relies⟩
  | recordsListed listing permuted =>
      rw [listing] at relies stores
      obtain ⟨due, agrees⟩ := relies
      refine ⟨safe.present, fun _ => stores rfl, due, agrees, ?_, ?_⟩
      · intro entry listed
        exact Table.mem_rows_iff.mp (permuted.mem_iff.mp listed)
      · intro key plaintext tracked
        obtain ⟨_, record, _, found, _⟩ :=
          (stores rfl).backs due key plaintext tracked
        apply Or.inl
        apply List.mem_map.mpr
        exact ⟨(key, record),
          permuted.mem_iff.mpr (Table.mem_rows_iff.mpr found), rfl⟩
  | recordSwapped swapping => exact crashSafe_recordSwapped safe swapping
  | allSwapped swapping =>
      rw [swapping] at relies stores
      obtain ⟨_, agrees, _, reads⟩ := relies
      refine ⟨safe.present, fun _ => stores rfl, agrees, ?_⟩
      obtain ⟨slot, isSlot, inSession⟩ := agrees
      refine ⟨slot, isSlot, ?_⟩
      intro key plaintext tracked
      cases reads key plaintext tracked with
      | inl waiting => cases waiting
      | inr isRead =>
          obtain ⟨masterKey, ofSession, isReads⟩ := isRead
          rw [inSession, Option.some.injEq] at ofSession
          subst ofSession
          exact isReads
  | statusSet setting =>
      rw [setting] at relies stores
      exact ⟨safe.present, fun _ => stores rfl, relies⟩
  | recordsAbandoned discarding =>
      rw [discarding] at relies stores
      exact ⟨safe.present, fun _ => (stores rfl).frame relies.1 rfl rfl rfl,
        relies.2⟩
  | recordsDiscarded discarding =>
      rw [discarding] at relies stores
      exact ⟨safe.present, fun _ => (stores rfl).frame relies.1 rfl rfl rfl,
        relies⟩
  | keyDiscarded discarding =>
      rw [discarding] at relies stores
      exact ⟨safe.present, fun _ => (stores rfl).frame relies.1 rfl rfl rfl,
        relies⟩
  | failed led => exact crashSafe_failed safe calm led
  | crashed =>
      refine ⟨safe.present, fun _ => ?_, trivial⟩
      exact stores (Bool.not_eq_true' _ ▸ calm)
  | unlocked stopped holds =>
      rw [stopped] at stores
      exact ⟨safe.present, fun _ => stores rfl,
        safeFor_resumeProcess ⟨_, holds, rfl⟩⟩
  | resumed idle =>
      rw [idle] at relies stores
      exact ⟨safe.present, fun _ => stores rfl, safeFor_resumeProcess relies⟩
  | captured isCapture stepped =>
      rw [notCapture] at isCapture
      cases isCapture

/-- In every run of switches, failures, crashes and restarts that does not stop
while the keys are replaced, once nothing is pending the device holds a master
key that reads the whole history. -/
theorem switchIsCrashSafe {start final : Device} {slot : KeySlot}
    {switchedBefore switched : Bool}
    (idle : start.process = .idle switchedBefore)
    (noPhase : start.phase = none)
    (isSlot : start.keyslot = some slot)
    (inSession : start.session = some slot.masterKey)
    (run : Run (Device.step cipher blobFiles localScope) Undisturbed start final)
    (settled : final.process = .idle switched)
    (nothingPending : final.phase = none) :
    ∃ held, final.keyslot = some held ∧ final.session = some held.masterKey ∧
      ∀ key plaintext,
        Reads cipher start.representations slot.masterKey key plaintext →
          Reads cipher final.representations held.masterKey key plaintext := by
  let history := Reads cipher start.representations slot.masterKey
  have initially : CrashSafe cipher history start := by
    refine ⟨fun key plaintext tracked => tracked.present, ?_, ?_⟩
    · intro _
      unfold Device.Stores
      rw [noPhase]
      exact ⟨slot, isSlot, fun key plaintext tracked => tracked⟩
    · rw [idle]
      exact ⟨slot, isSlot, inSession⟩
  have safe : CrashSafe cipher history final :=
    run.preserves initially fun before action after holds calm stepped =>
      crashSafe_step holds calm (effect_of_step stepped)
  have agrees := safe.running
  have stores := safe.stored
  rw [settled] at agrees stores
  obtain ⟨held, isHeld, ofHeld⟩ := agrees
  refine ⟨held, isHeld, ofHeld, ?_⟩
  intro key plaintext tracked
  have holds := (stores rfl).holds (by rw [nothingPending]; rfl)
  exact holds.reads ⟨held, isHeld, ofHeld⟩ ofHeld tracked

end Steps

/-! ## Two stops -/

/-- A crash during the swap is made up for after the restart. -/
theorem switchIsCrashSafe_crash_while_swapping :
    ∃ final, Run (Device.step sampleCipher sampleBlobFiles sampleScope) Undisturbed sampleDevice
        final ∧
      final.process = .idle true ∧ final.phase = none ∧
      ∃ held, final.keyslot = some held ∧
        final.session = some held.masterKey ∧
        ∀ key plaintext,
          Reads sampleCipher sampleDevice.representations (sampleKey 1) key
              plaintext →
            Reads sampleCipher final.representations held.masterKey key
              plaintext := by
  let actions := backUpSample "run-1" 9 ++ handshakeSample 2 ++
    [.crash, .unlock none] ++ swapSample "run-1" 9
  let step := Device.step sampleCipher sampleBlobFiles sampleScope
  have guarded : Guarded step Undisturbed sampleDevice actions := by
    decide +kernel
  have ended : (execute step sampleDevice actions).map
      (fun device => (device.process, device.phase)) =
        some (.idle true, none) := by
    decide +kernel
  obtain ⟨final, executed, ends⟩ := Option.map_eq_some_iff.mp ended
  have settled : final.process = .idle true := congrArg Prod.fst ends
  have nothingPending : final.phase = none := congrArg Prod.snd ends
  have run := Run.ofExecute guarded executed
  have isSlot : sampleDevice.keyslot = some (sampleSlot 1) := rfl
  exact ⟨final, run, settled, nothingPending,
    switchIsCrashSafe rfl rfl isSlot rfl run settled nothingPending⟩

/-- A crash right after the new keyslot is stored: the restart opens the
session with the new key, drops the backup as abandoned, and the row that was
readable is not. -/
theorem crash_after_keyslot_loses_history :
    let actions := backUpSample "run-1" 9 ++ (handshakeSample 2).take 5 ++
      [.crash, .unlock none, .proceed, .proceed, .proceed, .proceed]
    Reads sampleCipher sampleDevice.representations (sampleKey 1) sampleRow
        [104, 105] ∧
    (execute (Device.step sampleCipher sampleBlobFiles sampleScope) sampleDevice actions).map
        (fun device => (device.process, device.phase, device.session,
          device.backup.rows.length,
          decide (Reads sampleCipher device.representations (sampleKey 2)
            sampleRow [104, 105]))) =
      some (.idle false, none, some (sampleKey 2), 0, false) := by
  decide +kernel

end OpenClipboard.SwitchSpace
