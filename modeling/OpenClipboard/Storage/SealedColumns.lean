import OpenClipboard.Core.ActiveState
import OpenClipboard.Core.FileSet
import OpenClipboard.Security.Cipher

/-!
# Columns sealed with a session subkey

The paths of a file-set manifest and the consumable reference of the register
are sealed with subkeys that HKDF derives from the session's master key, each
with its own `info`.  What one operation seals the other opens under the same
subkey, and under no other.
-/

namespace OpenClipboard

open Text

/-! ## Subkeys -/

/-- The third-party HKDF: a key, the salt and the info. -/
abbrev Hkdf := MasterKey → List UInt8 → List UInt8 → MasterKey

def fileSetKeyInfo : List UInt8 := asBytes "uniclipboard-file-set/v1"

def consumableHkdfInfo : List UInt8 :=
  asBytes "uniclipboard-active-register-consumable/v1#hkdf"

section Subkeys

variable (hkdf : Hkdf) (profile : String)

/-- `derive_subkey` with the profile as salt. -/
def deriveSubkey (session : Option MasterKey) (info : List UInt8) :
    Option MasterKey :=
  session.map fun masterKey => hkdf masterKey (asBytes profile) info

def fileSetSubkey (masterKey : MasterKey) : MasterKey :=
  hkdf masterKey (asBytes profile) fileSetKeyInfo

def consumableSubkey (masterKey : MasterKey) : MasterKey :=
  hkdf masterKey (asBytes profile) consumableHkdfInfo

end Subkeys

/-! ## Manifest rows -/

/-- A row of `entry_file_set`; the hash column is kept decoded. -/
structure EntryFileSetRow where
  lineIndex : Int
  originalTextCt : Option (List UInt8)
  kind : String
  contentHash : Option Digest
  blobId : Option String
  sizeBytes : Option Int
  excludeReason : Option String
  rootIndex : Option Int
  relativePathCt : Option (List UInt8)
  kindTag : Option String
  rootNameCt : Option (List UInt8)
  deriving DecidableEq, Repr

namespace EntryFileSetExcludeReason

/-- The codes of `exclude_reason_codec`. -/
def asCode : EntryFileSetExcludeReason → String
  | .sizeCapExceeded => "size_cap_exceeded"
  | .ingestFailed => "ingest_failed"
  | .unsupportedMember => "unsupported_member"

def fromCode (code : String) : Option EntryFileSetExcludeReason :=
  if code = "size_cap_exceeded" then some .sizeCapExceeded
  else if code = "ingest_failed" then some .ingestFailed
  else if code = "unsupported_member" then some .unsupportedMember
  else none

theorem fromCode_asCode (reason : EntryFileSetExcludeReason) :
    fromCode reason.asCode = some reason := by
  cases reason <;> decide

end EntryFileSetExcludeReason

theorem FileSetMemberKind.fromTag_asTag (kind : FileSetMemberKind) :
    fromTag kind.asTag = some kind := by
  cases kind <;> decide

section FileSets

variable (cipher : Sealing MasterKey Nonce) (key : MasterKey)

/-- `open_with_aad` for a column. -/
def openColumn (entryId : String) (lineIndex : Int) (suffix bytes : List UInt8) :
    Option String :=
  (cipher.decrypt key bytes (Aad.column entryId lineIndex suffix)).bind fromUtf8

/-- `seal_with_aad` for a column. -/
def sealColumn (nonce : Nonce) (entryId : String) (lineIndex : Int)
    (suffix : List UInt8) (text : String) : List UInt8 :=
  cipher.encrypt key nonce (asBytes text) (Aad.column entryId lineIndex suffix)

structure RowNonces where
  originalText : Nonce
  relativePath : Nonce
  rootName : Nonce

def encodeLine (nonces : RowNonces) (entryId : String)
    (line : EntryFileSetLine) : EntryFileSetRow where
  lineIndex := line.lineIndex
  originalTextCt := some (sealColumn cipher key nonces.originalText entryId
    line.lineIndex Aad.originalTextSuffix line.originalText)
  kind :=
    match line.kind with
    | .file _ _ _ => "file"
    | .nonFile => "non_file"
    | .excluded _ => "excluded"
  contentHash := line.kind.contentHash?
  blobId :=
    match line.kind with
    | .file _ blobId _ => blobId
    | _ => none
  sizeBytes :=
    match line.kind with
    | .file _ _ sizeBytes => sizeBytes
    | _ => none
  excludeReason :=
    match line.kind with
    | .excluded reason => some reason.asCode
    | _ => none
  rootIndex := line.memberLocation.map FileSetMemberLocation.rootIndex
  relativePathCt := line.memberLocation.map fun location =>
    sealColumn cipher key nonces.relativePath entryId line.lineIndex
      Aad.relativePathSuffix location.relativePath
  kindTag := line.memberLocation.map fun location => location.kind.asTag
  rootNameCt := line.memberLocation.map fun location =>
    sealColumn cipher key nonces.rootName entryId line.lineIndex
      Aad.rootNameSuffix location.rootName

/-- The member location of `decode_row`: all four columns or none. -/
def decodeLocation (entryId : String) (row : EntryFileSetRow) :
    Option (Option FileSetMemberLocation) :=
  match row.rootIndex, row.relativePathCt, row.kindTag, row.rootNameCt with
  | none, none, none, none => some none
  | some rootIndex, some relativePathCt, some kindTag, some rootNameCt =>
      (openColumn cipher key entryId row.lineIndex Aad.relativePathSuffix
          relativePathCt).bind fun relativePath =>
        (FileSetMemberKind.fromTag kindTag).bind fun kind =>
          (openColumn cipher key entryId row.lineIndex Aad.rootNameSuffix
              rootNameCt).map fun rootName =>
            some ⟨rootIndex, rootName, relativePath, kind⟩
  | _, _, _, _ => none

/-- The line kind of `decode_row`. -/
def decodeKind (row : EntryFileSetRow) : Option EntryFileSetLineKind :=
  if row.kind = "file" then
    row.contentHash.map fun contentHash =>
      .file contentHash row.blobId row.sizeBytes
  else if row.kind = "non_file" then
    some .nonFile
  else if row.kind = "excluded" then
    (row.excludeReason.bind EntryFileSetExcludeReason.fromCode).map .excluded
  else
    none

/-- `decode_row`; every failure is a storage error. -/
def decodeRow (entryId : String) (row : EntryFileSetRow) :
    Option EntryFileSetLine :=
  row.originalTextCt.bind fun originalTextCt =>
    (openColumn cipher key entryId row.lineIndex Aad.originalTextSuffix
        originalTextCt).bind fun originalText =>
      (decodeLocation cipher key entryId row).bind fun memberLocation =>
        (decodeKind row).map fun kind =>
          ⟨row.lineIndex, originalText, memberLocation, kind⟩

variable {cipher key}
variable {other : MasterKey} {entryId : String} {nonces : RowNonces}

theorem openColumn_sealColumn (nonce : Nonce) (lineIndex : Int)
    (suffix : List UInt8) (text : String) :
    openColumn cipher key entryId lineIndex suffix
      (sealColumn cipher key nonce entryId lineIndex suffix text) =
        some text := by
  unfold openColumn sealColumn
  rw [cipher.decrypt_encrypt, Option.bind_some, fromUtf8_asBytes]

theorem decodeKind_encodeLine (line : EntryFileSetLine) :
    decodeKind (encodeLine cipher key nonces entryId line) = some line.kind := by
  unfold decodeKind encodeLine
  cases line.kind with
  | file contentHash blobId sizeBytes => rfl
  | nonFile => rfl
  | excluded reason =>
      simp [EntryFileSetExcludeReason.fromCode_asCode]

theorem decodeLocation_encodeLine (line : EntryFileSetLine) :
    decodeLocation cipher key entryId
      (encodeLine cipher key nonces entryId line) =
        some line.memberLocation := by
  unfold decodeLocation encodeLine
  cases line.memberLocation with
  | none => rfl
  | some location =>
      simp only [Option.map_some]
      rw [openColumn_sealColumn, Option.bind_some,
        FileSetMemberKind.fromTag_asTag, Option.bind_some,
        openColumn_sealColumn, Option.map_some]

theorem decodeRow_encodeLine (line : EntryFileSetLine) :
    decodeRow cipher key entryId (encodeLine cipher key nonces entryId line) =
      some line := by
  have opened : openColumn cipher key entryId line.lineIndex
      Aad.originalTextSuffix (sealColumn cipher key nonces.originalText entryId
        line.lineIndex Aad.originalTextSuffix line.originalText) =
      some line.originalText :=
    openColumn_sealColumn _ _ _ _
  unfold decodeRow
  rw [decodeLocation_encodeLine, decodeKind_encodeLine]
  show (openColumn cipher key entryId line.lineIndex _ _).bind _ = _
  rw [opened]
  rfl

theorem key_eq_of_decodeRow {line opened : EntryFileSetLine}
    (decoded : decodeRow cipher other entryId
      (encodeLine cipher key nonces entryId line) = some opened) :
    other = key := by
  unfold decodeRow at decoded
  obtain ⟨ciphertext, isCiphertext, rest⟩ := Option.bind_eq_some_iff.mp decoded
  cases isCiphertext
  obtain ⟨text, openedText, _⟩ := Option.bind_eq_some_iff.mp rest
  obtain ⟨plaintext, decrypted, _⟩ := Option.bind_eq_some_iff.mp openedText
  exact (Sealing.decrypt_encrypt_eq_some_iff.mp decrypted).1

end FileSets

section Loading

variable (cipher : Sealing MasterKey Nonce) (hkdf : Hkdf) (profile : String)

/-- `save`: the rows that replace those of the entry. -/
def saveFileSet (session : Option MasterKey) (nonces : Int → RowNonces)
    (entryId : String) (fileSet : EntryFileSet) :
    Option (List EntryFileSetRow) :=
  if fileSet.lines.isEmpty then
    some []
  else
    (deriveSubkey hkdf profile session fileSetKeyInfo).map fun key =>
      fileSet.lines.map fun line =>
        encodeLine cipher key (nonces line.lineIndex) entryId line

/-- `load` of the rows of an entry, in the order of their line indexes. -/
def loadFileSet (session : Option MasterKey) (entryId : String)
    (rows : List EntryFileSetRow) : Option (Option EntryFileSet) :=
  if rows.isEmpty then
    some none
  else
    (deriveSubkey hkdf profile session fileSetKeyInfo).bind fun key =>
      (rows.mapM (decodeRow cipher key entryId)).map fun lines =>
        some ⟨lines⟩

variable {cipher hkdf profile}
variable {masterKey other : MasterKey} {nonces : Int → RowNonces}
variable {entryId : String} {rows : List EntryFileSetRow}
variable {fileSet loaded : EntryFileSet}

theorem loadFileSet_saveFileSet (nonempty : fileSet.lines ≠ [])
    (saved : saveFileSet cipher hkdf profile (some masterKey) nonces entryId
      fileSet = some rows) :
    loadFileSet cipher hkdf profile (some masterKey) entryId rows =
      some (some fileSet) := by
  unfold saveFileSet at saved
  rw [if_neg (by simpa using nonempty)] at saved
  simp only [deriveSubkey, Option.map_some, Option.some.injEq] at saved
  subst saved
  unfold loadFileSet
  rw [if_neg (by simpa using nonempty)]
  simp only [deriveSubkey, Option.map_some, Option.bind_some, List.mapM_map]
  have decoded : ∀ lines : List EntryFileSetLine,
      lines.mapM (decodeRow cipher (hkdf masterKey (asBytes profile)
        fileSetKeyInfo) entryId ∘ fun line => encodeLine cipher
          (hkdf masterKey (asBytes profile) fileSetKeyInfo)
            (nonces line.lineIndex) entryId line) = some lines := by
    intro lines
    induction lines with
    | nil => rfl
    | cons line lines inductionHypothesis =>
        rw [List.mapM_cons, inductionHypothesis, Function.comp_apply,
          decodeRow_encodeLine]
        rfl
  rw [decoded]
  rfl

/-- Whatever order the table gives them in, the rows of an entry in the order
of their line indexes are the lines of its manifest in that order. -/
theorem loadFileSet_stored {read : List EntryFileSetRow}
    (nonempty : fileSet.lines ≠ [])
    (saved : saveFileSet cipher hkdf profile (some masterKey) nonces entryId
      fileSet = some rows)
    (stored : read.Perm rows) (ordered : read.Pairwise fun earlier later =>
      earlier.lineIndex ≤ later.lineIndex) :
    ∃ lines, loadFileSet cipher hkdf profile (some masterKey) entryId read =
        some (some ⟨lines⟩) ∧
      lines.Perm fileSet.lines ∧ lines.Pairwise fun earlier later =>
        earlier.lineIndex ≤ later.lineIndex := by
  have isMap := saved
  unfold saveFileSet at isMap
  rw [if_neg (by simpa using nonempty)] at isMap
  simp only [deriveSubkey, Option.map_some, Option.some.injEq] at isMap
  rw [← isMap] at stored
  obtain ⟨lines, isRead, same⟩ := (iff_of_eq (congrFun₂
    (List.eq_map_comp_perm _) read fileSet.lines)).mpr stored
  have filled : lines ≠ [] := fun empty =>
    nonempty (List.perm_nil.mp (empty ▸ same.symm))
  have savedAlone : saveFileSet cipher hkdf profile (some masterKey) nonces
      entryId ⟨lines⟩ = some read := by
    unfold saveFileSet
    rw [if_neg (by simpa using filled)]
    simp only [deriveSubkey, Option.map_some, isRead]
  rw [isRead, List.pairwise_map] at ordered
  exact ⟨lines, loadFileSet_saveFileSet filled savedAlone, same, ordered⟩

def twoLines : List EntryFileSetLine :=
  [⟨1, "b", none, .nonFile⟩, ⟨0, "a", none, .nonFile⟩]

def twoRows : List EntryFileSetRow :=
  (saveFileSet sampleCipher (fun key _ _ => key) "" (some (sampleKey 1))
    (fun _ => ⟨sampleNonce, sampleNonce, sampleNonce⟩) "e" ⟨twoLines⟩).getD []

theorem loadFileSet_stored_twoLines :
    ∃ lines, loadFileSet sampleCipher (fun key _ _ => key) ""
        (some (sampleKey 1)) "e" twoRows.reverse = some (some ⟨lines⟩) ∧
      lines.Perm twoLines ∧ lines.Pairwise fun earlier later =>
        earlier.lineIndex ≤ later.lineIndex := by
  have saved : saveFileSet sampleCipher (fun key _ _ => key) ""
      (some (sampleKey 1)) (fun _ => ⟨sampleNonce, sampleNonce, sampleNonce⟩)
        "e" ⟨twoLines⟩ = some twoRows := rfl
  exact loadFileSet_stored (by simp) saved (List.reverse_perm _) (by
    simp [twoRows, twoLines, saveFileSet, deriveSubkey, encodeLine])

theorem fileSetSubkey_eq_of_load
    (saved : saveFileSet cipher hkdf profile (some masterKey) nonces entryId
      fileSet = some rows)
    (loads : loadFileSet cipher hkdf profile (some other) entryId rows =
      some (some loaded)) :
    fileSetSubkey hkdf profile other = fileSetSubkey hkdf profile masterKey := by
  unfold saveFileSet at saved
  by_cases empty : fileSet.lines.isEmpty
  · rw [if_pos empty, Option.some.injEq] at saved
    subst saved
    cases loads
  · rw [if_neg empty] at saved
    simp only [deriveSubkey, Option.map_some, Option.some.injEq] at saved
    subst saved
    unfold loadFileSet at loads
    cases listed : fileSet.lines with
    | nil => simp [listed] at empty
    | cons line lines =>
        rw [listed] at loads
        simp only [List.map_cons, List.isEmpty_cons, deriveSubkey,
          Option.map_some, Option.bind_some, List.mapM_cons] at loads
        obtain ⟨decodedLines, decoded, _⟩ := Option.map_eq_some_iff.mp loads
        obtain ⟨opened, first, _⟩ := Option.bind_eq_some_iff.mp decoded
        exact key_eq_of_decodeRow first

end Loading

/-! ## The consumable reference -/

/-- `postcard` on the payload of the reference. -/
structure ConsumableCodec where
  toVec : MobileConsumableRef → List UInt8
  fromBytes : List UInt8 → Option MobileConsumableRef
  fromBytes_toVec : ∀ reference, fromBytes (toVec reference) = some reference

section Consumable

variable (cipher : Sealing MasterKey Nonce) (hkdf : Hkdf) (profile : String)
variable (postcard : ConsumableCodec)

/-- `seal` with the session's subkey. -/
def sealConsumable (session : Option MasterKey) (nonce : Nonce)
    (reference : MobileConsumableRef) : Option (List UInt8) :=
  (deriveSubkey hkdf profile session consumableHkdfInfo).map fun key =>
    cipher.encrypt key nonce (postcard.toVec reference) Aad.consumable

/-- `load_mobile_consumable`, with the column it leaves: an unreadable
reference is discarded. -/
def loadMobileConsumable (session : Option MasterKey)
    (column : Option (List UInt8)) :
    Option (Option MobileConsumableRef) × Option (List UInt8) :=
  match column with
  | none => (some none, none)
  | some ciphertext =>
      match deriveSubkey hkdf profile session consumableHkdfInfo with
      | none => (none, column)
      | some key =>
          match (cipher.decrypt key ciphertext Aad.consumable).bind
              postcard.fromBytes with
          | some reference => (some (some reference), column)
          | none => (some none, none)

variable {cipher hkdf profile postcard}
variable {masterKey other : MasterKey} {nonce : Nonce}
variable {reference loaded : MobileConsumableRef} {ciphertext : List UInt8}

theorem consumableSubkey_eq_of_load
    (isSealed : sealConsumable cipher hkdf profile postcard (some masterKey)
      nonce reference = some ciphertext)
    (loads : (loadMobileConsumable cipher hkdf profile postcard (some other)
      (some ciphertext)).1 = some (some loaded)) :
    consumableSubkey hkdf profile other =
      consumableSubkey hkdf profile masterKey := by
  simp only [sealConsumable, deriveSubkey, Option.map_some,
    Option.some.injEq] at isSealed
  subst isSealed
  simp only [loadMobileConsumable, deriveSubkey, Option.map_some] at loads
  split at loads
  · rename_i found
    obtain ⟨plaintext, decrypted, _⟩ := Option.bind_eq_some_iff.mp found
    exact (Sealing.decrypt_encrypt_eq_some_iff.mp decrypted).1
  · cases loads

end Consumable

end OpenClipboard
