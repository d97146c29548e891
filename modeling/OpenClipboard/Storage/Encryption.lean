import OpenClipboard.Library.PartialMap
import OpenClipboard.Security.Cipher
import OpenClipboard.Storage.Representations

/-!
# Encryption around the representation table

The event writer encrypts inline data before the insert, the decrypting
repository decrypts it on some of its reads.  Both take the key from the
session.
-/

namespace OpenClipboard

open PartialMap RepresentationTable

inductive StorageError where
  | notUnlocked
  | invalidCiphertext
  | inconsistent
  | refused
  | notFound
  deriving DecidableEq, Repr

section Encryption

variable (cipher : Sealing MasterKey Nonce)

def blobEncrypt (session : Option MasterKey) (nonce : Nonce)
    (plaintext aad : List UInt8) : Except StorageError (List UInt8) :=
  match session with
  | none => .error .notUnlocked
  | some key => .ok (cipher.encrypt key nonce plaintext aad)

def blobDecrypt (session : Option MasterKey) (ciphertext aad : List UInt8) :
    Except StorageError (List UInt8) :=
  match session with
  | none => .error .notUnlocked
  | some key =>
      match cipher.decrypt key ciphertext aad with
      | none => .error .invalidCiphertext
      | some plaintext => .ok plaintext

/-! ## Blob files -/

/-- What `EncryptedBlobStore` does to the bytes of a blob: zstd, whose
`decompress` is limited to `MAX_DECOMPRESSED_SIZE`, then the file format. -/
structure BlobFileCodec where
  compress : List UInt8 → List UInt8
  decompress : List UInt8 → Option (List UInt8)
  sealing : Sealing MasterKey Nonce

/-- `EncryptedBlobStore::put`; the bytes that go to the file. -/
def BlobFileCodec.put (codec : BlobFileCodec) (session : Option MasterKey)
    (nonce : Nonce) (blobId : String) (data : List UInt8) :
    Option (List UInt8) :=
  session.map fun masterKey =>
    codec.sealing.encrypt masterKey nonce (codec.compress data)
      (Aad.forBlobV2 blobId)

/-- `BlobReaderPort::get` on the bytes of the file. -/
def BlobFileCodec.get (codec : BlobFileCodec) (session : Option MasterKey)
    (blobId : String) (stored : List UInt8) : Option (List UInt8) :=
  session.bind fun masterKey =>
    (codec.sealing.decrypt masterKey stored (Aad.forBlobV2 blobId)).bind
      codec.decompress

def orInconsistent {α : Type} : Option α → Except StorageError α
  | some value => .ok value
  | none => .error .inconsistent

def orRefused {α : Type} : Option α → Except StorageError α
  | some value => .ok value
  | none => .error .refused

/-! ## Writing -/

/-- One representation of `insert_event`; `nonces` is the randomness drawn for
each representation. -/
def encryptRepresentation (session : Option MasterKey)
    (nonces : String → Nonce) (eventId : String)
    (rep : PersistedClipboardRepresentation) :
    Except StorageError PersistedClipboardRepresentation :=
  match rep.inlineData with
  | none => orInconsistent rep.newWithState
  | some plaintext =>
      (blobEncrypt cipher session (nonces rep.id) plaintext
          (Aad.forInline eventId rep.id)).bind fun ciphertext =>
        orInconsistent
          { rep with inlineData := some ciphertext }.newWithState

/-- The encryption that comes before the insert of an event. -/
def encryptRepresentations (session : Option MasterKey)
    (nonces : String → Nonce) (eventId : String)
    (reps : List PersistedClipboardRepresentation) :
    Except StorageError (List PersistedClipboardRepresentation) :=
  reps.mapM (encryptRepresentation cipher session nonces eventId)

def insertEvent (session : Option MasterKey) (nonces : String → Nonce)
    (eventId : String) (reps : List PersistedClipboardRepresentation)
    (table : RepresentationTable) : Except StorageError RepresentationTable :=
  (encryptRepresentations cipher session nonces eventId reps).bind
    fun encrypted => orRefused (insertRows eventId encrypted table)

/-- The representation rows of `replace_entry_content`: the new event's rows go
in as they are, then the old event's rows are deleted. -/
def replaceEventContent (oldEventId newEventId : String)
    (reps : List PersistedClipboardRepresentation)
    (table : RepresentationTable) : Except StorageError RepresentationTable :=
  (orRefused (insertRows newEventId reps table)).map fun inserted =>
    deleteEvent inserted oldEventId

/-! ## Reading -/

def SnapshotRepresentationRow.toDomain (row : SnapshotRepresentationRow) :
    Except StorageError PersistedClipboardRepresentation :=
  match row.rep.payloadState with
  | .failed _ =>
      match row.rep.lastError with
      | none => .error .inconsistent
      | some lastError =>
          orInconsistent
            { row.rep with payloadState := .failed lastError }.newWithState
  | _ => orInconsistent row.rep.newWithState

def getRepresentation (session : Option MasterKey)
    (table : RepresentationTable) (key : RepKey) :
    Except StorageError (Option PersistedClipboardRepresentation) :=
  match table.findRep key with
  | none => .ok none
  | some row =>
      row.toDomain.bind fun rep =>
        match rep.inlineData with
        | none => (orInconsistent rep.newWithState).map some
        | some ciphertext =>
            (blobDecrypt cipher session ciphertext
                (Aad.forInline key.eventId key.repId)).bind fun plaintext =>
              (orInconsistent
                { rep with inlineData := some plaintext }.newWithState).map some

/-- `get_representation_by_id`: without the event there is no decryption. -/
def getRepresentationById (table : RepresentationTable) (repId : String) :
    Except StorageError (Option PersistedClipboardRepresentation) :=
  match table.find repId with
  | none => .ok none
  | some row => row.toDomain.map some

/-- `get_representation_by_blob_id`: the first row in the table's order, not
decrypted. -/
def getRepresentationByBlobId (table : RepresentationTable)
    (blobId : String) :
    Except StorageError (Option PersistedClipboardRepresentation) :=
  match table.rows.find? fun entry => entry.2.rep.blobId == some blobId with
  | none => .ok none
  | some entry => entry.2.toDomain.map some

/-- One row of `get_representations_for_event`; a ciphertext that does not
open is handed on as it is. -/
def decryptForEvent (session : Option MasterKey) (eventId : String)
    (rep : PersistedClipboardRepresentation) :
    Except StorageError PersistedClipboardRepresentation :=
  match rep.inlineData with
  | none => .ok rep
  | some ciphertext =>
      match blobDecrypt cipher session ciphertext
          (Aad.forInline eventId rep.id) with
      | .ok plaintext =>
          orInconsistent { rep with inlineData := some plaintext }.newWithState
      | .error _ => .ok rep

def getRepresentationsForEvent (session : Option MasterKey)
    (table : RepresentationTable) (eventId : String) :
    Except StorageError (List PersistedClipboardRepresentation) :=
  let rows := (table.rows.map Prod.snd).filter fun row => row.eventId == eventId
  (rows.mapM SnapshotRepresentationRow.toDomain).bind fun reps =>
    reps.mapM (decryptForEvent cipher session eventId)

variable {cipher}
variable {row current : SnapshotRepresentationRow}
variable {rep made : PersistedClipboardRepresentation}

theorem orRefused_eq_ok_iff {α : Type} {answer : Option α} {value : α} :
    orRefused answer = .ok value ↔ answer = some value := by
  cases answer <;> simp [orRefused]

theorem orInconsistent_newWithState :
    orInconsistent rep.newWithState = .ok made ↔
      rep.isConsistent = true ∧ rep = made := by
  unfold PersistedClipboardRepresentation.newWithState
  by_cases consistent : rep.isConsistent = true
  · rw [if_pos consistent]
    simp [orInconsistent, consistent]
  · rw [if_neg consistent]
    simp [orInconsistent, consistent]

theorem isConsistent_withInlineData {old : List UInt8} (new : List UInt8)
    (hasInline : rep.inlineData = some old)
    (consistent : rep.isConsistent = true) :
    { rep with inlineData := some new }.isConsistent = true := by
  unfold PersistedClipboardRepresentation.isConsistent at consistent ⊢
  rw [hasInline] at consistent
  exact consistent

theorem orInconsistent_withInlineData {old new : List UInt8}
    (hasInline : rep.inlineData = some old)
    (decoded : orInconsistent rep.newWithState = .ok made) :
    made.inlineData = some old ∧
      orInconsistent { rep with inlineData := some new }.newWithState =
        .ok { made with inlineData := some new } := by
  obtain ⟨consistent, isMade⟩ := orInconsistent_newWithState.mp decoded
  subst isMade
  have stillConsistent := isConsistent_withInlineData new hasInline consistent
  exact ⟨hasInline, orInconsistent_newWithState.mpr ⟨stillConsistent, rfl⟩⟩

theorem SnapshotRepresentationRow.toDomain_of_isConsistent
    (consistent : row.rep.isConsistent = true) :
    row.toDomain = .ok row.rep := by
  unfold SnapshotRepresentationRow.toDomain
  cases state : row.rep.payloadState with
  | failed stateError =>
      have isError : row.rep.lastError = some stateError := by
        unfold PersistedClipboardRepresentation.isConsistent at consistent
        rw [state] at consistent
        simp only [Bool.and_eq_true, beq_iff_eq] at consistent
        exact consistent.2
      simp only [isError]
      rw [← isError, ← state]
      exact orInconsistent_newWithState.mpr ⟨consistent, rfl⟩
  | _ =>
      exact orInconsistent_newWithState.mpr ⟨consistent, rfl⟩

/-- `to_domain` asks whether there is inline data, not for its bytes. -/
theorem SnapshotRepresentationRow.toDomain_withInlineData {old new : List UInt8}
    (hasInline : row.rep.inlineData = some old)
    (isRep : current.rep = { row.rep with inlineData := some new })
    (decoded : row.toDomain = .ok made) :
    made.inlineData = some old ∧
      current.toDomain = .ok { made with inlineData := some new } := by
  unfold SnapshotRepresentationRow.toDomain at decoded ⊢
  rw [isRep]
  cases state : row.rep.payloadState with
  | failed stateError =>
      simp only [state] at decoded ⊢
      cases lastError : row.rep.lastError with
      | none =>
          rw [lastError] at decoded
          cases decoded
      | some message =>
          simp only [lastError] at decoded ⊢
          let failed := { row.rep with
            payloadState := PayloadAvailability.failed message
            lastError := some message }
          have inFailed : failed.inlineData = some old := hasInline
          exact orInconsistent_withInlineData inFailed decoded
  | _ =>
      simp only [state] at decoded ⊢
      have both : made.inlineData = some old ∧
          orInconsistent { row.rep with inlineData := some new }.newWithState =
            .ok { made with inlineData := some new } :=
        orInconsistent_withInlineData hasInline decoded
      simp only [state] at both
      exact both

theorem SnapshotRepresentationRow.inlineData_of_toDomain
    (decoded : row.toDomain = .ok made) :
    made.inlineData = row.rep.inlineData := by
  unfold SnapshotRepresentationRow.toDomain at decoded
  cases state : row.rep.payloadState with
  | failed stateError =>
      simp only [state] at decoded
      cases lastError : row.rep.lastError with
      | none =>
          rw [lastError] at decoded
          cases decoded
      | some message =>
          simp only [lastError] at decoded
          rw [← (orInconsistent_newWithState.mp decoded).2]
  | _ =>
      simp only [state] at decoded
      rw [← (orInconsistent_newWithState.mp decoded).2]

theorem encryptRepresentation_eq_ok {masterKey : MasterKey}
    {nonces : String → Nonce} {eventId : String}
    (encrypted : encryptRepresentation cipher (some masterKey) nonces eventId
      rep = .ok made) :
    made.isConsistent = true ∧
      made = { rep with
        inlineData := rep.inlineData.map fun plaintext =>
          cipher.encrypt masterKey (nonces rep.id) plaintext
            (Aad.forInline eventId rep.id) } := by
  unfold encryptRepresentation at encrypted
  cases data : rep.inlineData with
  | none =>
      simp only [data] at encrypted
      obtain ⟨consistent, same⟩ := orInconsistent_newWithState.mp encrypted
      rw [← same]
      refine ⟨consistent, ?_⟩
      rw [Option.map_none, ← data]
  | some plaintext =>
      simp only [data] at encrypted
      obtain ⟨ciphertext, sealed, isMade⟩ := bind_eq_ok_iff.mp encrypted
      obtain ⟨consistent, same⟩ := orInconsistent_newWithState.mp isMade
      cases sealed
      rw [← same]
      exact ⟨consistent, rfl⟩

theorem blobDecrypt_eq_ok_iff {masterKey : MasterKey}
    {ciphertext aad plaintext : List UInt8} :
    blobDecrypt cipher (some masterKey) ciphertext aad = .ok plaintext ↔
      cipher.decrypt masterKey ciphertext aad = some plaintext := by
  unfold blobDecrypt
  cases opened : cipher.decrypt masterKey ciphertext aad with
  | none => simp [opened]
  | some found => simp [opened]

variable {masterKey : MasterKey} {table : RepresentationTable} {key : RepKey}
variable {plaintext bytes : List UInt8}

theorem inlineData_of_getRepresentation
    (read : getRepresentation cipher (some masterKey) table key =
      .ok (some made))
    (hasData : made.inlineData = some plaintext) :
    ∃ row rep bytes, table.findRep key = some row ∧ row.toDomain = .ok rep ∧
      rep.inlineData = some bytes ∧
      cipher.decrypt masterKey bytes (Aad.forInline key.eventId key.repId) =
        some plaintext ∧
      { rep with inlineData := some plaintext }.isConsistent = true := by
  unfold getRepresentation at read
  split at read
  · cases read
  · rename_i row found
    obtain ⟨rep, decoded, rest⟩ := bind_eq_ok_iff.mp read
    split at rest
    · rename_i noData
      obtain ⟨same, isSame, isMade⟩ := map_eq_ok_iff.mp rest
      cases isMade
      rw [← (orInconsistent_newWithState.mp isSame).2, noData] at hasData
      cases hasData
    · rename_i bytes hasInline
      obtain ⟨opened, decrypted, rebuilt⟩ := bind_eq_ok_iff.mp rest
      obtain ⟨same, isSame, isMade⟩ := map_eq_ok_iff.mp rebuilt
      cases isMade
      obtain ⟨consistent, isRep⟩ := orInconsistent_newWithState.mp isSame
      rw [← isRep, Option.some.injEq] at hasData
      subst hasData
      exact ⟨row, rep, bytes, found, decoded, hasInline,
        blobDecrypt_eq_ok_iff.mp decrypted, consistent⟩

theorem getRepresentation_of_inlineData
    (found : table.findRep key = some row) (decoded : row.toDomain = .ok rep)
    (hasInline : rep.inlineData = some bytes)
    (opened : cipher.decrypt masterKey bytes
      (Aad.forInline key.eventId key.repId) = some plaintext)
    (consistent : { rep with inlineData := some plaintext }.isConsistent =
      true) :
    getRepresentation cipher (some masterKey) table key =
      .ok (some { rep with inlineData := some plaintext }) := by
  unfold getRepresentation
  simp only [found, decoded]
  apply bind_eq_ok_iff.mpr
  refine ⟨rep, rfl, ?_⟩
  simp only [hasInline]
  apply bind_eq_ok_iff.mpr
  refine ⟨plaintext, blobDecrypt_eq_ok_iff.mpr opened, ?_⟩
  apply map_eq_ok_iff.mpr
  exact ⟨_, orInconsistent_newWithState.mpr ⟨consistent, rfl⟩, rfl⟩

end Encryption

end OpenClipboard
