import OpenClipboard.SwitchSpace.CrashSafety

/-!
# The capture pipeline beside a switch

What a step of the capture pipeline does to the main table, seen row by row:
a row stays, moves to a blob, or is new.  Captures that are encrypted and not
inserted yet are remembered with what was captured.
-/

namespace OpenClipboard.SwitchSpace

open OpenClipboard RepresentationTable PartialMap

section Stored

variable (cipher : Sealing MasterKey Nonce) (blobFiles : BlobFileCodec)

def Device.capturedInline (device : Device) (key : RepKey) :
    Option (List UInt8) :=
  (device.captured.find key).bind PersistedClipboardRepresentation.inlineData

def Device.ReadsCaptured (device : Device) (masterKey : MasterKey)
    (key : RepKey) : Prop :=
  ∃ plaintext, device.capturedInline key = some plaintext ∧
    Reads cipher device.representations masterKey key plaintext

def Device.BlobOpens (device : Device) (masterKey : MasterKey)
    (blobId : String) : Prop :=
  ∃ stored data, device.blobs.find blobId = some stored ∧
    device.writtenBlobs.find blobId = some data ∧
    blobFiles.sealing.decrypt masterKey stored (Aad.forBlobV2 blobId) =
      some (blobFiles.compress data)

def Device.opensBlob (device : Device) (masterKey : MasterKey)
    (blobId : String) : Bool :=
  (device.blobs.find blobId).any fun stored =>
    (blobFiles.sealing.decrypt masterKey stored
      (Aad.forBlobV2 blobId)).isSome

/-- Every blob file is what its store wrote under some key. -/
def Device.BlobsWritten (device : Device) : Prop :=
  ∀ blobId stored, device.blobs.find blobId = some stored →
    ∃ masterKey nonce data,
      blobFiles.put (some masterKey) nonce blobId data = some stored ∧
        device.writtenBlobs.find blobId = some data

/-- A representation that waits for its insert opens to what was captured, if
it opens. -/
def Device.PendingCaptured (device : Device) (eventId : String)
    (rep : PersistedClipboardRepresentation) : Prop :=
  (device.captured.find ⟨eventId, rep.id⟩).isSome = true ∧
  (rep.inlineData = none → device.capturedInline ⟨eventId, rep.id⟩ = none) ∧
  ∀ bytes masterKey plaintext, rep.inlineData = some bytes →
    cipher.decrypt masterKey bytes (aadOf ⟨eventId, rep.id⟩) =
      some plaintext →
    device.capturedInline ⟨eventId, rep.id⟩ = some plaintext

/-- What holds of the stores at any time. -/
structure Device.Remembers (device : Device) : Prop where
  rows : ∀ key row, device.representations.findRep key = some row →
    (device.captured.find key).isSome = true
  /-- A row without content was captured without inline data. -/
  emptied : ∀ key row, device.representations.findRep key = some row →
    row.rep.inlineData = none → row.rep.blobId = none →
      device.capturedInline key = none
  pending : ∀ event ∈ device.pendingEvents, ∀ rep ∈ event.reps,
    device.PendingCaptured cipher event.eventId rep
  blobs : device.BlobsWritten blobFiles

end Stored

variable {eventId : String} {rep : PersistedClipboardRepresentation}
  {reps : List PersistedClipboardRepresentation}

section

variable {cipher : Sealing MasterKey Nonce} {blobFiles : BlobFileCodec}
variable {localScope : String} {device after : Device} {action : Action}
variable {masterKey : MasterKey} {blobId : String}

theorem Device.BlobsWritten.opens (written : device.BlobsWritten blobFiles)
    (opens : device.opensBlob blobFiles masterKey blobId = true) :
    device.BlobOpens blobFiles masterKey blobId := by
  unfold Device.opensBlob at opens
  cases found : device.blobs.find blobId with
  | none =>
      rw [found] at opens
      cases opens
  | some stored =>
      rw [found, Option.any_some] at opens
      obtain ⟨plaintext, opened⟩ := Option.isSome_iff_exists.mp opens
      obtain ⟨writtenUnder, nonce, data, isStored, isData⟩ :=
        written blobId stored found
      simp only [BlobFileCodec.put, Option.map_some, Option.some.injEq]
        at isStored
      have both := opened
      rw [← isStored] at both
      obtain ⟨_, _, isPlaintext⟩ := Sealing.decrypt_encrypt_eq_some_iff.mp both
      refine ⟨stored, data, found, isData, ?_⟩
      rw [isPlaintext]
      exact opened

/-! ## Remembering captures -/

theorem find_remember_of_mem (fresh : device.isFresh eventId reps = true)
    (member : rep ∈ reps) :
    (device.remember eventId reps).find ⟨eventId, rep.id⟩ = some rep := by
  have distinct := of_decide_eq_true (Bool.and_eq_true_iff.mp fresh).1
  have distinctKeys :
      (reps.map fun rep => (⟨eventId, rep.id⟩ : RepKey)).Nodup := by
    have mapped := distinct.map
      (f := fun repId => (⟨eventId, repId⟩ : RepKey)) ?_
    · rw [List.map_map] at mapped
      exact mapped
    · intro left right same
      cases same
      rfl
  exact Table.find_putEach_of_mem distinctKeys member

theorem find_remember_of_known {key : RepKey}
    (fresh : device.isFresh eventId reps = true)
    (known : device.captured.find key = some rep) :
    (device.remember eventId reps).find key = some rep := by
  unfold Device.remember
  rw [Table.find_putEach_of_not_mem, known]
  intro isNew
  obtain ⟨other, inReps, same⟩ := List.mem_map.mp isNew
  have absent := List.all_eq_true.mp (Bool.and_eq_true_iff.mp fresh).2 other
    inReps
  rw [same, known] at absent
  cases absent

/-! ## What a step does to the rows -/

/-- The window in which a new row with inline data would not be backed up and
its key be replaced. -/
def Process.backsUp : Process → Bool
  | .backingUp _ _ | .upserting _ _ _ _ | .savingPhase _ (some (.prepared _)) _
  | .handshaking _ | .storingKeyslot _ _ | .openingSession _ _ => true
  | _ => false

section Fate

variable (cipher blobFiles)

/-- A row stays as it is but for its state, or it has no inline data, or it is
new and reads as what was captured. -/
inductive RowFate (device after : Device) (key : RepKey)
    (row : SnapshotRepresentationRow) : Prop where
  | stays (before : SnapshotRepresentationRow)
      (found : device.representations.findRep key = some before)
      (sameInline : row.rep.inlineData = before.rep.inlineData)
      (sameBlob : row.rep.blobId = before.rep.blobId)
  | moved (noInline : row.rep.inlineData = none)
      (opens : ∀ blobId, row.rep.blobId = some blobId →
        ∃ masterKey, after.session = some masterKey ∧
          after.BlobOpens blobFiles masterKey blobId)
  | new (calm : device.process.backsUp = false) (masterKey : MasterKey)
      (inSession : after.session = some masterKey)
      (reads : after.ReadsCaptured cipher masterKey key)
      (noBlob : row.rep.blobId = none)

structure Captures (device after : Device) : Prop where
  same : SameSwitch device after
  remembers : after.Remembers cipher blobFiles
  known : ∀ key rep, device.captured.find key = some rep →
    after.captured.find key = some rep
  opens : ∀ masterKey blobId, device.BlobOpens blobFiles masterKey blobId →
    after.BlobOpens blobFiles masterKey blobId
  rows : ∀ key row, after.representations.findRep key = some row →
    RowFate cipher blobFiles device after key row

/-- The pipeline writes nothing that the session's key does not open: no
plaintext, no event that was encrypted under an earlier key, no reference to
such a blob.  No event with inline data is inserted while rows are backed up
and their key is replaced, and the new key opens every blob in use. -/
def Device.keepsReadable (device : Device) : Action → Bool
  | .insertEvent index =>
      (device.pendingEvents[index]?).all fun event =>
        event.reps.all fun rep =>
          (rep.inlineData.all fun bytes =>
            !device.process.backsUp &&
              device.session.any fun masterKey =>
                (cipher.decrypt masterKey bytes
                  (aadOf ⟨event.eventId, rep.id⟩)).isSome) &&
            rep.blobId.all fun blobId =>
              device.session.any fun masterKey =>
                device.opensBlob blobFiles masterKey blobId
  | .replaceEvent _ _ reps =>
      reps.all fun rep =>
        rep.inlineData.isNone &&
          rep.blobId.all fun blobId =>
            device.session.any fun masterKey =>
              device.opensBlob blobFiles masterKey blobId
  | .updateProcessing _ _ blobId _ _ =>
      blobId.all fun blobId =>
        device.session.any fun masterKey =>
          device.opensBlob blobFiles masterKey blobId
  | .proceed =>
      match device.process with
      | .openingSession _ slot =>
          device.representations.rows.all fun entry =>
            entry.2.rep.blobId.all fun blobId =>
              device.opensBlob blobFiles slot.masterKey blobId
      | _ => true
  | _ => true

end Fate

theorem capturedInline_of_known {key : RepKey}
    (known : ∀ key rep, device.captured.find key = some rep →
      after.captured.find key = some rep)
    (isKnown : (device.captured.find key).isSome = true) :
    after.capturedInline key = device.capturedInline key := by
  obtain ⟨rep, found⟩ := Option.isSome_iff_exists.mp isKnown
  unfold Device.capturedInline
  rw [found, known key rep found]

theorem Device.PendingCaptured.frame
    (pending : device.PendingCaptured cipher eventId rep)
    (known : ∀ key rep, device.captured.find key = some rep →
      after.captured.find key = some rep) :
    after.PendingCaptured cipher eventId rep := by
  obtain ⟨isKnown, emptied, opens⟩ := pending
  have same := capturedInline_of_known known isKnown
  unfold Device.PendingCaptured
  rw [same]
  refine ⟨?_, emptied, opens⟩
  obtain ⟨found, isFound⟩ := Option.isSome_iff_exists.mp isKnown
  rw [known _ _ isFound]
  rfl

theorem any_session {test : MasterKey → Bool}
    (tested : device.session.any test = true) :
    ∃ masterKey, device.session = some masterKey ∧ test masterKey = true := by
  cases inSession : device.session with
  | none =>
      rw [inSession] at tested
      cases tested
  | some masterKey =>
      rw [inSession, Option.any_some] at tested
      exact ⟨masterKey, rfl, tested⟩

/-! ## The steps -/

theorem pendingCaptured_of_encrypted {session : Option MasterKey}
    {nonces : String → Nonce} {rep encrypted : PersistedClipboardRepresentation}
    (isEncrypted : encryptRepresentation cipher session nonces eventId rep =
      .ok encrypted)
    (isCaptured : device.captured.find ⟨eventId, rep.id⟩ = some rep) :
    device.PendingCaptured cipher eventId encrypted := by
  have inline : device.capturedInline ⟨eventId, rep.id⟩ = rep.inlineData := by
    unfold Device.capturedInline
    rw [isCaptured, Option.bind_some]
  unfold encryptRepresentation at isEncrypted
  cases data : rep.inlineData with
  | none =>
      simp only [data] at isEncrypted
      obtain ⟨_, same⟩ := orInconsistent_newWithState.mp isEncrypted
      subst same
      refine ⟨?_, fun _ => inline.trans data, ?_⟩
      · rw [isCaptured]
        rfl
      intro bytes masterKey plaintext hasInline
      rw [data] at hasInline
      cases hasInline
  | some captured =>
      simp only [data] at isEncrypted
      obtain ⟨ciphertext, sealed, made⟩ := bind_eq_ok_iff.mp isEncrypted
      obtain ⟨_, same⟩ := orInconsistent_newWithState.mp made
      subst same
      refine ⟨?_, ?_, ?_⟩
      · rw [isCaptured]
        rfl
      · intro noInline
        cases noInline
      intro bytes masterKey plaintext hasInline opened
      cases hasInline
      unfold blobEncrypt at sealed
      cases session with
      | none => cases sealed
      | some sessionKey =>
          cases sealed
          obtain ⟨_, _, isPlaintext⟩ :=
            Sealing.decrypt_encrypt_eq_some_iff.mp opened
          rw [inline, data, isPlaintext]

variable (remembers : device.Remembers cipher blobFiles)

include remembers

theorem captures_encryptEvent
    {reps encrypted : List PersistedClipboardRepresentation}
    {nonces : String → Nonce} (fresh : device.isFresh eventId reps = true)
    (isEncrypted : encryptRepresentations cipher device.session nonces eventId
      reps = .ok encrypted) :
    Captures cipher blobFiles device { device with
      pendingEvents := device.pendingEvents ++ [⟨eventId, encrypted⟩]
      captured := device.remember eventId reps } := by
  have known : ∀ key rep, device.captured.find key = some rep →
      (device.remember eventId reps).find key = some rep :=
    fun key rep isKnown => find_remember_of_known fresh isKnown
  refine ⟨⟨rfl, rfl, rfl, rfl, rfl, rfl, rfl⟩, ⟨?_, ?_, ?_, remembers.blobs⟩,
    known, fun _ _ opens => opens,
    fun key row found => .stays row found rfl rfl⟩
  · intro key row found
    obtain ⟨rep, isKnown⟩ :=
      Option.isSome_iff_exists.mp (remembers.rows key row found)
    show ((device.remember eventId reps).find key).isSome = true
    rw [known key rep isKnown]
    rfl
  · intro key row found noInline noBlob
    rw [capturedInline_of_known known (remembers.rows key row found)]
    exact remembers.emptied key row found noInline noBlob
  · intro event isPending rep inEvent
    cases List.mem_append.mp isPending with
    | inl before => exact (remembers.pending event before rep inEvent).frame known
    | inr isNew =>
        rw [List.mem_singleton] at isNew
        subst isNew
        obtain ⟨original, inReps, ofOriginal⟩ :=
          exists_of_forall₂ (mapM_eq_ok_iff.mp isEncrypted) inEvent
        exact pendingCaptured_of_encrypted ofOriginal
          (find_remember_of_mem fresh inReps)

theorem captures_insertEvent {index : Nat} {event : PendingEvent}
    {updated : RepresentationTable}
    (isPending : device.pendingEvents[index]? = some event)
    (inserted : insertRows event.eventId event.reps device.representations =
      some updated)
    (keeps : device.keepsReadable cipher blobFiles (.insertEvent index) =
      true) :
    Captures cipher blobFiles device { device with
      representations := updated
      pendingEvents := device.pendingEvents.eraseIdx index } := by
  have isMember : event ∈ device.pendingEvents :=
    List.mem_of_getElem? isPending
  have rowOf : ∀ key row, updated.findRep key = some row →
      device.representations.findRep key = some row ∨
        ∃ rep ∈ event.reps, key = ⟨event.eventId, rep.id⟩ ∧ row.rep = rep :=
    fun key row found => findRep_insertRows inserted found
  simp only [Device.keepsReadable, isPending, Option.all_some,
    List.all_eq_true, Bool.and_eq_true] at keeps
  refine ⟨⟨rfl, rfl, rfl, rfl, rfl, rfl, rfl⟩, ⟨?_, ?_, ?_, remembers.blobs⟩,
    fun _ _ isKnown => isKnown, fun _ _ opens => opens, ?_⟩
  · intro key row found
    cases rowOf key row found with
    | inl before => exact remembers.rows key row before
    | inr isNew =>
        obtain ⟨rep, inEvent, isKey, _⟩ := isNew
        rw [isKey]
        exact (remembers.pending event isMember rep inEvent).1
  · intro key row found noInline noBlob
    cases rowOf key row found with
    | inl before => exact remembers.emptied key row before noInline noBlob
    | inr isNew =>
        obtain ⟨rep, inEvent, isKey, isRep⟩ := isNew
        rw [isKey]
        exact (remembers.pending event isMember rep inEvent).2.1
          (isRep ▸ noInline)
  · intro other isOther
    exact remembers.pending other (List.mem_of_mem_eraseIdx isOther)
  · intro key row found
    cases rowOf key row found with
    | inl before => exact .stays row before rfl rfl
    | inr isNew =>
        obtain ⟨rep, inEvent, isKey, isRep⟩ := isNew
        obtain ⟨opensInline, opensBlob⟩ := keeps rep inEvent
        cases data : rep.inlineData with
        | none =>
            refine .moved (isRep ▸ data) ?_
            intro blobId isBlob
            rw [← isRep, isBlob, Option.all_some] at opensBlob
            obtain ⟨masterKey, inSession, opens⟩ := any_session opensBlob
            exact ⟨masterKey, inSession, remembers.blobs.opens opens⟩
        | some bytes =>
            rw [data, Option.all_some, Bool.and_eq_true] at opensInline
            obtain ⟨calm, opens⟩ := opensInline
            obtain ⟨masterKey, inSession, isOpen⟩ := any_session opens
            obtain ⟨plaintext, opened⟩ := Option.isSome_iff_exists.mp isOpen
            have pending := remembers.pending event isMember rep inEvent
            have rowInline : row.rep.inlineData = some bytes := isRep ▸ data
            refine .new ((Bool.not_eq_true' _).mp calm) masterKey inSession
              ⟨plaintext, ?_, bytes, ?_, ?_⟩ ?_
            · rw [isKey]
              exact pending.2.2 bytes masterKey plaintext data opened
            · exact readMainInlineData_eq_some_iff.mpr ⟨row, found, rowInline⟩
            · rw [isKey]
              exact opened
            · cases row.exclusive with
              | inl noInline =>
                  rw [rowInline] at noInline
                  cases noInline
              | inr noBlob => exact noBlob

theorem captures_deleteEvent :
    Captures cipher blobFiles device { device with
      representations := device.representations.deleteEvent eventId } := by
  refine ⟨⟨rfl, rfl, rfl, rfl, rfl, rfl, rfl⟩,
    ⟨?_, ?_, remembers.pending, remembers.blobs⟩, fun _ _ isKnown => isKnown,
    fun _ _ opens => opens, ?_⟩
  · intro key row found
    exact remembers.rows key row (findRep_of_deleteEvent found)
  · intro key row found
    exact remembers.emptied key row (findRep_of_deleteEvent found)
  · intro key row found
    exact .stays row (findRep_of_deleteEvent found) rfl rfl

theorem captures_replaceEvent {oldEventId newEventId : String}
    {updated : RepresentationTable}
    (fresh : device.isFresh newEventId reps = true)
    (replaced : replaceEventContent oldEventId newEventId reps
      device.representations = .ok updated)
    (keeps : device.keepsReadable cipher blobFiles
      (.replaceEvent oldEventId newEventId reps) = true) :
    Captures cipher blobFiles device { device with
      representations := updated
      captured := device.remember newEventId reps } := by
  have known : ∀ key rep, device.captured.find key = some rep →
      (device.remember newEventId reps).find key = some rep :=
    fun key rep isKnown => find_remember_of_known fresh isKnown
  have rowOf : ∀ key row, updated.findRep key = some row →
      device.representations.findRep key = some row ∨
        ∃ rep ∈ reps, key = ⟨newEventId, rep.id⟩ ∧ row.rep = rep := by
    intro key row found
    obtain ⟨inserted, isInserted, rfl⟩ := map_eq_ok_iff.mp replaced
    unfold orRefused at isInserted
    split at isInserted
    · rename_i table isTable
      cases isInserted
      exact findRep_insertRows isTable (findRep_of_deleteEvent found)
    · cases isInserted
  simp only [Device.keepsReadable, List.all_eq_true, Bool.and_eq_true,
    Option.isNone_iff_eq_none] at keeps
  refine ⟨⟨rfl, rfl, rfl, rfl, rfl, rfl, rfl⟩, ⟨?_, ?_, ?_, remembers.blobs⟩,
    known, fun _ _ opens => opens, ?_⟩
  · intro key row found
    show ((device.remember newEventId reps).find key).isSome = true
    cases rowOf key row found with
    | inl before =>
        obtain ⟨rep, isKnown⟩ :=
          Option.isSome_iff_exists.mp (remembers.rows key row before)
        rw [known key rep isKnown]
        rfl
    | inr isNew =>
        obtain ⟨rep, inReps, isKey, _⟩ := isNew
        rw [isKey, find_remember_of_mem fresh inReps]
        rfl
  · intro key row found noInline noBlob
    cases rowOf key row found with
    | inl before =>
        rw [capturedInline_of_known known (remembers.rows key row before)]
        exact remembers.emptied key row before noInline noBlob
    | inr isNew =>
        obtain ⟨rep, inReps, isKey, isRep⟩ := isNew
        unfold Device.capturedInline
        rw [isKey]
        show ((device.remember newEventId reps).find _).bind _ = none
        rw [find_remember_of_mem fresh inReps, Option.bind_some]
        exact (keeps rep inReps).1
  · intro event isPending rep inEvent
    exact (remembers.pending event isPending rep inEvent).frame known
  · intro key row found
    cases rowOf key row found with
    | inl before => exact .stays row before rfl rfl
    | inr isNew =>
        obtain ⟨rep, inReps, isKey, isRep⟩ := isNew
        obtain ⟨noInline, opensBlob⟩ := keeps rep inReps
        refine .moved (isRep ▸ noInline) ?_
        intro blobId isBlob
        rw [← isRep, isBlob, Option.all_some] at opensBlob
        obtain ⟨masterKey, inSession, opens⟩ := any_session opensBlob
        exact ⟨masterKey, inSession, remembers.blobs.opens opens⟩

theorem captures_writeBlob {blobId : String} {plaintext stored : List UInt8}
    {nonce : Nonce}
    (isNew : (device.writtenBlobs.find blobId).isSome = false)
    (isStored : blobFiles.put device.session nonce blobId plaintext =
      some stored) :
    Captures cipher blobFiles device { device with
      blobs := device.blobs.put blobId stored
      writtenBlobs := device.writtenBlobs.put blobId plaintext } := by
  refine ⟨⟨rfl, rfl, rfl, rfl, rfl, rfl, rfl⟩,
    ⟨remembers.rows, remembers.emptied, remembers.pending, ?_⟩,
    fun _ _ isKnown => isKnown, ?_,
    fun key row found => .stays row found rfl rfl⟩
  · intro other bytes found
    rw [Table.find_put] at found
    by_cases same : other = blobId
    · rw [if_pos same, Option.some.injEq] at found
      subst same found
      cases inSession : device.session with
      | none =>
          rw [inSession] at isStored
          cases isStored
      | some masterKey =>
          rw [inSession] at isStored
          exact ⟨masterKey, nonce, plaintext, isStored, Table.find_put_self⟩
    · rw [if_neg same] at found
      obtain ⟨masterKey, otherNonce, data, isPut, isData⟩ :=
        remembers.blobs other bytes found
      exact ⟨masterKey, otherNonce, data, isPut,
        (Table.find_put_of_ne same).trans isData⟩
  · intro masterKey other opens
    obtain ⟨bytes, data, found, isData, opened⟩ := opens
    have different : other ≠ blobId := by
      intro same
      rw [← same, isData] at isNew
      cases isNew
    exact ⟨bytes, data, (Table.find_put_of_ne different).trans found,
      (Table.find_put_of_ne different).trans isData, opened⟩

theorem captures_updateProcessing {repId : String}
    {expectedStates : List PayloadAvailability} {blobId : Option String}
    {newState : PayloadAvailability} {lastError : Option String}
    (keeps : device.keepsReadable cipher blobFiles (.updateProcessing repId
      expectedStates blobId newState lastError) = true) :
    Captures cipher blobFiles device { device with
      representations := device.representations.updateProcessingResult repId
        expectedStates blobId newState lastError } := by
  refine ⟨⟨rfl, rfl, rfl, rfl, rfl, rfl, rfl⟩,
    ⟨?_, ?_, remembers.pending, remembers.blobs⟩, fun _ _ isKnown => isKnown,
    fun _ _ opens => opens, ?_⟩
  · intro key row found
    cases findRep_updateProcessingResult found with
    | inl before => exact remembers.rows key row before
    | inr processed =>
        obtain ⟨before, isBefore, _⟩ := processed
        exact remembers.rows key before isBefore
  · intro key row found noInline noBlob
    cases findRep_updateProcessingResult found with
    | inl before => exact remembers.emptied key row before noInline noBlob
    | inr processed =>
        obtain ⟨before, isBefore, rfl⟩ := processed
        cases blobId with
        | none => exact remembers.emptied key before isBefore noInline noBlob
        | some blobId => cases noBlob
  · intro key row found
    cases findRep_updateProcessingResult found with
    | inl before => exact .stays row before rfl rfl
    | inr processed =>
        obtain ⟨before, isBefore, rfl⟩ := processed
        cases blobId with
        | none => exact .stays before isBefore rfl rfl
        | some newBlob =>
            refine .moved rfl ?_
            intro other isBlob
            cases isBlob
            obtain ⟨masterKey, inSession, opens⟩ := any_session keeps
            exact ⟨masterKey, inSession, remembers.blobs.opens opens⟩

theorem captures_of_step (isCapture : action.isCapture = true)
    (keeps : device.keepsReadable cipher blobFiles action = true)
    (stepped : device.step cipher blobFiles localScope action = some after) :
    Captures cipher blobFiles device after := by
  cases action with
  | encryptEvent eventId reps nonces =>
      simp only [Device.step] at stepped
      split at stepped
      · rename_i fresh
        split at stepped
        · cases stepped
        · rename_i encrypted isEncrypted
          cases stepped
          exact captures_encryptEvent remembers fresh isEncrypted
      · cases stepped
  | insertEvent index =>
      simp only [Device.step] at stepped
      split at stepped
      · cases stepped
      · rename_i event isPending
        obtain ⟨updated, inserted, rfl⟩ := Option.map_eq_some_iff.mp stepped
        exact captures_insertEvent remembers isPending inserted keeps
  | deleteEvent eventId =>
      cases stepped
      exact captures_deleteEvent remembers
  | replaceEvent oldEventId newEventId reps =>
      simp only [Device.step] at stepped
      split at stepped
      · rename_i fresh
        split at stepped
        · cases stepped
        · rename_i updated replaced
          cases stepped
          exact captures_replaceEvent remembers fresh replaced keeps
      · cases stepped
  | writeBlob blobId plaintext nonce =>
      simp only [Device.step] at stepped
      split at stepped
      · cases stepped
      · rename_i isNew
        obtain ⟨stored, isStored, rfl⟩ := Option.map_eq_some_iff.mp stepped
        exact captures_writeBlob remembers (Bool.not_eq_true _ ▸ isNew) isStored
  | updateProcessing repId expectedStates blobId newState lastError =>
      cases stepped
      exact captures_updateProcessing remembers keeps
  | _ => cases isCapture

end

end OpenClipboard.SwitchSpace
