import OpenClipboard.History.UriList
import OpenClipboard.Inbound.ApplyInbound
import OpenClipboard.Security.Cipher
import OpenClipboard.Storage.Encryption

/-!
# Availability of an entry

An inbound delivery asks whether a matching entry is fully held.  The answer is
read off the raw rows of the representations: their payload states, and for a
file list the lines of the inline column.  The column is the JSON text of a
sealed envelope, or plain after an in-place upgrade, and its content may have
been cut or cleared.
-/

namespace OpenClipboard.Availability

open Text History

/-! ## The check -/

/-- What stands at a local path, as far as the process can tell. -/
inductive LocalPath where
  | absent
  | unreadable
  | regularFile
  | directory
  | special
  deriving DecidableEq, Repr

/-- The columns that availability depends on. -/
structure RepRow where
  mimeType : Option String
  inlineData : Option (List UInt8)
  payloadState : String
  deriving DecidableEq, Repr

section Check

variable (fileUrlPath : FileUrlPath) (disk : OsString → LocalPath)

def pathIsReadableRegularFile (path : OsString) : Bool :=
  disk path == .regularFile

def fileUriToPath (line : String) : Option OsString :=
  if startsWith line "file://" then
    fileUrlPath line
  else if startsWith line "/" || contains line ":\\" then
    some (asBytes line)
  else
    none

def listedLines (text : String) : List String :=
  ((lines text).map trim).filter fun line =>
    !(line.isEmpty || startsWith line "#")

def lineIsPresent (line : String) : Bool :=
  if startsWith line "uniclip-missing:" then
    false
  else
    match fileUriToPath fileUrlPath line with
    | some path => pathIsReadableRegularFile disk path
    | none => !startsWith line "file://"

def fileListIsFullyPresent (bytes : List UInt8) : Bool :=
  match fromUtf8 bytes with
  | none => false
  | some text => (listedLines text).all (lineIsPresent fileUrlPath disk)

/-- One turn of the loop over the rows. -/
def repIndicatesAvailable (row : RepRow) : Bool :=
  if row.payloadState == "Failed" || row.payloadState == "Lost" then
    false
  else if contains (row.mimeType.getD "") "uri-list" then
    match row.inlineData with
    | none => false
    | some bytes => fileListIsFullyPresent fileUrlPath disk bytes
  else
    true

def repsIndicateAvailable (rows : List RepRow) : Bool :=
  !rows.isEmpty && rows.all (repIndicatesAvailable fileUrlPath disk)

/-- `is_entry_available` on the rows of the entry's event, if it has one. -/
def isEntryAvailable (rows : Option (List RepRow)) : Bool :=
  match rows with
  | none => false
  | some rows => repsIndicateAvailable fileUrlPath disk rows

end Check

/-! ## The inline column -/

/-- `serde_json` on a list of bytes. -/
def jsonBytes (bytes : List UInt8) : List Char :=
  ['['] ++ [','].intercalate (bytes.map fun byte =>
    Nat.toDigits 10 byte.toNat) ++ [']']

/-- The text before the nonce: the version and the algorithm that
`encrypt_blob_xchacha` writes. -/
def blobOpening : String :=
  "\x7b\"version\":\"V1\",\"aead\":\"XChaCha20Poly1305\",\"nonce\":"

def ciphertextKey : String := ",\"ciphertext\":"
def fingerprintKey : String := ",\"aad_fingerprint\":"
def blobClosing : String := "\x7d"

def fingerprintMember (aadFingerprint : Option (List UInt8)) : List Char :=
  match aadFingerprint with
  | none => []
  | some fingerprint => fingerprintKey.toList ++ jsonBytes fingerprint

/-- `serde_json` on an `EncryptedBlob`. -/
def encryptedBlobJson (nonce ciphertext : List UInt8)
    (aadFingerprint : Option (List UInt8)) : String :=
  String.ofList (blobOpening.toList ++ jsonBytes nonce ++
    ciphertextKey.toList ++ jsonBytes ciphertext ++
    fingerprintMember aadFingerprint ++ blobClosing.toList)

/-- How a column holds its content: sealed by the insert of an event, as it is
after an in-place upgrade. -/
inductive ColumnForm where
  | sealed (nonce ciphertext : List UInt8)
      (aadFingerprint : Option (List UInt8))
  | plain
  deriving DecidableEq, Repr

def ColumnForm.column (form : ColumnForm) (content : List UInt8) :
    List UInt8 :=
  match form with
  | .sealed nonce ciphertext aadFingerprint =>
      asBytes (encryptedBlobJson nonce ciphertext aadFingerprint)
  | .plain => content

/-- A captured representation after its commit, in any payload state. -/
structure CommittedRep where
  stored : StoredRepresentation
  form : ColumnForm

namespace CommittedRep

def row (rep : CommittedRep) : RepRow where
  mimeType := rep.stored.rep.mimeType.map MimeType.asStr
  inlineData := rep.stored.rep.inlineData.map rep.form.column
  payloadState := rep.stored.rep.payloadState.asStr

def isLost (rep : CommittedRep) : Bool :=
  match rep.stored.rep.payloadState with
  | .failed _ => true
  | .lost => true
  | _ => false

def isList (rep : CommittedRep) : Bool :=
  isUriList rep.stored.rep

end CommittedRep

/-! ## What availability is to mean -/

section Meaning

variable (fileUrlPath : FileUrlPath) (disk : OsString → LocalPath)

/-- No placeholder, and no reference to a local path that does not exist. -/
def LineIsWhole (line : String) : Prop :=
  startsWith line "uniclip-missing:" = false ∧
    match fileUriToPath fileUrlPath line with
    | some path => disk path ≠ .absent
    | none => startsWith line "file://" = false

def ListIsWhole (bytes : List UInt8) : Prop :=
  ∃ text, fromUtf8 bytes = some text ∧
    ∀ line ∈ listedLines text, LineIsWhole fileUrlPath disk line

/-- Everything that was captured of an entry is there. -/
structure IsComplete (reps : List CommittedRep) : Prop where
  nonempty : reps ≠ []
  notLost : ∀ rep ∈ reps, rep.isLost = false
  listsWhole : ∀ rep ∈ reps, rep.isList = true →
    ListIsWhole fileUrlPath disk rep.stored.captured

/-- The answer is exact, and so a delivery materialises a matching entry again
exactly if it is incomplete. -/
structure AvailabilityExact (reps : List CommittedRep) : Prop where
  exact : isEntryAvailable fileUrlPath disk (some (reps.map CommittedRep.row)) =
    true ↔ IsComplete fileUrlPath disk reps
  redownload : ∀ (ports : ApplyInbound.InboundPorts) (existing : EntryId),
    ports.availability = some (fun _ => .ok (isEntryAvailable fileUrlPath disk
      (some (reps.map CommittedRep.row)))) →
    (ApplyInbound.isEntryAvailable ports existing = false ↔
      ¬ IsComplete fileUrlPath disk reps)

end Meaning

/-! ## What the columns tell -/

namespace CommittedRep

/-- The column of a list counts as present: anything sealed does, plain
content by its lines, a cleared column never. -/
def Passes (fileUrlPath : FileUrlPath) (disk : OsString → LocalPath)
    (rep : CommittedRep) : Prop :=
  match rep.stored.rep.inlineData, rep.form with
  | none, _ => False
  | some _, .sealed _ _ _ => True
  | some content, .plain =>
      fileListIsFullyPresent fileUrlPath disk content = true

end CommittedRep

/-- Something is lost; or the lists are whole, and no column is cleared and no
plain one names what is no readable file; or some list is not whole, and some
column is cleared or a plain one shows it. -/
def ColumnsTell (fileUrlPath : FileUrlPath) (disk : OsString → LocalPath)
    (reps : List CommittedRep) : Prop :=
  (∃ rep ∈ reps, rep.isLost = true) ∨
    ((∀ rep ∈ reps, rep.isList = true →
        ListIsWhole fileUrlPath disk rep.stored.captured) ∧
      ∀ rep ∈ reps, rep.isList = true → rep.Passes fileUrlPath disk) ∨
    ((∃ rep ∈ reps, rep.isList = true ∧
        ¬ ListIsWhole fileUrlPath disk rep.stored.captured) ∧
      ∃ rep ∈ reps, rep.isList = true ∧ ¬ rep.Passes fileUrlPath disk)

/-! ## A sealed column -/

/-- Neither whitespace nor a backslash. -/
def isPlainChar (c : Char) : Bool :=
  !isWhitespace c && c != '\\'

theorem isPlainChar_of_isDigit {c : Char} (digit : c.isDigit = true) :
    isPlainChar c = true := by
  rw [Char.isDigit_iff_toNat] at digit
  have zero : '0'.toNat = 48 := rfl
  have nine : '9'.toNat = 57 := rfl
  have notBackslash : c ≠ '\\' := by
    rintro rfl
    exact absurd digit (by decide)
  simp only [isPlainChar, isWhitespace, Bool.and_eq_true, Bool.not_eq_true',
    bne_iff_ne]
  refine ⟨?_, notBackslash⟩
  simp only [Bool.or_eq_false_iff, Bool.and_eq_false_iff,
    decide_eq_false_iff_not, beq_eq_false_iff_ne]
  omega

theorem isPlainChar_intercalate {pieces : List (List Char)}
    (plain : ∀ piece ∈ pieces, ∀ c ∈ piece, isPlainChar c = true) :
    ∀ c ∈ [','].intercalate pieces, isPlainChar c = true := by
  induction pieces with
  | nil =>
      intro c member
      cases member
  | cons first rest inductionHypothesis =>
      have later := inductionHypothesis fun piece member =>
        plain piece (List.mem_cons_of_mem first member)
      cases rest with
      | nil =>
          intro c member
          rw [List.intercalate_singleton] at member
          exact plain first List.mem_cons_self c member
      | cons second others =>
          intro c member
          have parts : c ∈ first ∨ c = ',' ∨
              c ∈ [','].intercalate (second :: others) := by
            simpa [List.intercalate, List.intersperse] using member
          rcases parts with here | rfl | there
          · exact plain first List.mem_cons_self c here
          · decide
          · exact later c there

theorem isPlainChar_jsonBytes (bytes : List UInt8) :
    ∀ c ∈ jsonBytes bytes, isPlainChar c = true := by
  have digits : ∀ c ∈ [','].intercalate (bytes.map fun byte =>
      Nat.toDigits 10 byte.toNat), isPlainChar c = true := by
    apply isPlainChar_intercalate
    intro piece isPiece c member
    obtain ⟨byte, _, rfl⟩ := List.mem_map.mp isPiece
    apply isPlainChar_of_isDigit
    exact Nat.isDigit_of_mem_toDigits (by decide) (by decide) member
  intro c member
  simp only [jsonBytes, List.mem_append, List.mem_singleton] at member
  rcases member with (rfl | inside) | rfl
  · decide
  · exact digits c inside
  · decide

theorem isPlainChar_encryptedBlobJson (nonce ciphertext : List UInt8)
    (aadFingerprint : Option (List UInt8)) :
    ∀ c ∈ (encryptedBlobJson nonce ciphertext aadFingerprint).toList,
      isPlainChar c = true := by
  have opening : blobOpening.toList.all isPlainChar = true := by
    decide +kernel
  have key : ciphertextKey.toList.all isPlainChar = true := by
    decide +kernel
  have lastKey : fingerprintKey.toList.all isPlainChar = true := by
    decide +kernel
  have closing : blobClosing.toList.all isPlainChar = true := by
    decide +kernel
  intro c member
  rw [encryptedBlobJson, String.toList_ofList] at member
  simp only [List.mem_append] at member
  rcases member with ((((isOpening | isNonce) | isKey) | isCiphertext) |
    isFingerprint) | isClosing
  · exact List.all_eq_true.mp opening c isOpening
  · exact isPlainChar_jsonBytes nonce c isNonce
  · exact List.all_eq_true.mp key c isKey
  · exact isPlainChar_jsonBytes ciphertext c isCiphertext
  · cases aadFingerprint with
    | none => cases isFingerprint
    | some fingerprint =>
        rcases List.mem_append.mp isFingerprint with isLastKey | isBytes
        · exact List.all_eq_true.mp lastKey c isLastKey
        · exact isPlainChar_jsonBytes fingerprint c isBytes
  · exact List.all_eq_true.mp closing c isClosing

/-- The text of a sealed column is one line that names nothing. -/
theorem fileListIsFullyPresent_sealed (fileUrlPath : FileUrlPath)
    (disk : OsString → LocalPath) (nonce ciphertext : List UInt8)
    (aadFingerprint : Option (List UInt8)) :
    fileListIsFullyPresent fileUrlPath disk
      (asBytes (encryptedBlobJson nonce ciphertext aadFingerprint)) = true := by
  have plain :=
    isPlainChar_encryptedBlobJson nonce ciphertext aadFingerprint
  have noWhitespace : ∀ c ∈
      (encryptedBlobJson nonce ciphertext aadFingerprint).toList,
      isWhitespace c = false := by
    intro c member
    exact Bool.not_eq_true' _ |>.mp (Bool.and_eq_true_iff.mp (plain c member)).1
  obtain ⟨rest, opens⟩ : ∃ rest,
      (encryptedBlobJson nonce ciphertext aadFingerprint).toList =
        '\x7b' :: rest := by
    have opening : blobOpening.toList =
        '\x7b' :: blobOpening.toList.tail := by
      decide +kernel
    rw [encryptedBlobJson, String.toList_ofList, opening]
    exact ⟨_, rfl⟩
  have nonempty : encryptedBlobJson nonce ciphertext aadFingerprint ≠ "" := by
    intro isEmpty
    rw [isEmpty] at opens
    cases opens
  have noBackslash : contains
      (encryptedBlobJson nonce ciphertext aadFingerprint) ":\\" = false := by
    rw [contains, decide_eq_false_iff_not]
    intro inside
    have member := plain _ (inside.subset (a := '\\') (by decide))
    exact absurd member (by decide)
  generalize encryptedBlobJson nonce ciphertext aadFingerprint = text at *
  have starts : ∀ first others, first ≠ '\x7b' →
      startsWith text (String.ofList (first :: others)) = false := by
    intro first others different
    rw [startsWith, opens, String.toList_ofList, List.isPrefixOf_cons_cons,
      beq_eq_false_iff_ne.mpr different, Bool.false_and]
  have oneLine : listedLines text = [text] := by
    have notComment : startsWith text "#" = false :=
      starts '#' [] (by decide)
    simp [listedLines, lines_of_noWhitespace nonempty noWhitespace,
      trim_of_noWhitespace noWhitespace, nonempty, notComment]
  have noPlaceholder : startsWith text "uniclip-missing:" = false :=
    starts 'u' _ (by decide)
  have noFileUrl : startsWith text "file://" = false :=
    starts 'f' _ (by decide)
  have noPath : startsWith text "/" = false := starts '/' _ (by decide)
  rw [fileListIsFullyPresent, fromUtf8_asBytes]
  simp [oneLine, lineIsPresent, noPlaceholder, fileUriToPath, noFileUrl,
    noPath, noBackslash]

/-! ## When the answer is exact -/

section Exact

variable {fileUrlPath : FileUrlPath} {disk : OsString → LocalPath}

theorem fileListIsFullyPresent_column_iff {rep : CommittedRep} :
    (∃ bytes, rep.row.inlineData = some bytes ∧
        fileListIsFullyPresent fileUrlPath disk bytes = true) ↔
      rep.Passes fileUrlPath disk := by
  unfold CommittedRep.Passes CommittedRep.row
  cases rep.stored.rep.inlineData with
  | none => simp
  | some content =>
      cases rep.form with
      | plain => simp [ColumnForm.column]
      | «sealed» nonce ciphertext aadFingerprint =>
          simp [ColumnForm.column, fileListIsFullyPresent_sealed]

theorem isLost_iff {rep : CommittedRep} :
    rep.isLost = true ↔
      rep.row.payloadState = "Failed" ∨ rep.row.payloadState = "Lost" := by
  unfold CommittedRep.isLost CommittedRep.row
  cases rep.stored.rep.payloadState <;> simp [PayloadAvailability.asStr]

theorem repIndicatesAvailable_iff {rep : CommittedRep} :
    repIndicatesAvailable fileUrlPath disk rep.row = true ↔
      rep.isLost = false ∧
        (rep.isList = true → rep.Passes fileUrlPath disk) := by
  have isListed : contains (rep.row.mimeType.getD "") "uri-list" =
      rep.isList := by
    rfl
  unfold repIndicatesAvailable
  by_cases lost : rep.isLost = true
  · have state := isLost_iff.mp lost
    rw [if_pos (by simpa using state)]
    simp [lost]
  · have state := fun isState => lost (isLost_iff.mpr isState)
    rw [if_neg (by simpa using state), isListed]
    simp only [Bool.not_eq_true] at lost
    by_cases listed : rep.isList = true
    · rw [if_pos listed, ← fileListIsFullyPresent_column_iff]
      cases rep.row.inlineData with
      | none => simp [listed]
      | some bytes => simp [listed, lost]
    · rw [if_neg listed]
      simp [listed, lost]

theorem isEntryAvailable_iff {reps : List CommittedRep} :
    isEntryAvailable fileUrlPath disk (some (reps.map CommittedRep.row)) =
        true ↔
      reps ≠ [] ∧ (∀ rep ∈ reps, rep.isLost = false) ∧
        ∀ rep ∈ reps, rep.isList = true → rep.Passes fileUrlPath disk := by
  have turns : (reps.map CommittedRep.row).all
        (repIndicatesAvailable fileUrlPath disk) = true ↔
      ∀ rep ∈ reps, rep.isLost = false ∧
        (rep.isList = true → rep.Passes fileUrlPath disk) := by
    simp only [List.all_map, List.all_eq_true, Function.comp_apply,
      repIndicatesAvailable_iff]
  unfold isEntryAvailable repsIndicateAvailable
  simp only [Bool.and_eq_true, turns, Bool.not_eq_true',
    List.isEmpty_eq_false_iff, ne_eq, List.map_eq_nil_iff]
  constructor
  · rintro ⟨nonempty, each⟩
    exact ⟨nonempty, fun rep member => (each rep member).1,
      fun rep member => (each rep member).2⟩
  · rintro ⟨nonempty, notLost, passes⟩
    exact ⟨nonempty, fun rep member =>
      ⟨notLost rep member, passes rep member⟩⟩

/-- The answer is exact if and only if the columns tell whether the lists are
whole, or something is lost anyway. -/
theorem availabilityExact_iff (reps : List CommittedRep) :
    AvailabilityExact fileUrlPath disk reps ↔
      ColumnsTell fileUrlPath disk reps := by
  constructor
  · intro answer
    by_cases lost : ∃ rep ∈ reps, rep.isLost = true
    · exact .inl lost
    · have notLost : ∀ rep ∈ reps, rep.isLost = false := by
        intro rep member
        exact Bool.eq_false_iff.mpr fun isLost => lost ⟨rep, member, isLost⟩
      right
      by_cases whole : ∀ rep ∈ reps, rep.isList = true →
          ListIsWhole fileUrlPath disk rep.stored.captured
      · refine .inl ⟨whole, ?_⟩
        intro rep member
        have nonempty : reps ≠ [] := List.ne_nil_of_mem member
        have available := answer.exact.mpr ⟨nonempty, notLost, whole⟩
        exact (isEntryAvailable_iff.mp available).2.2 rep member
      · have incomplete : ¬ IsComplete fileUrlPath disk reps :=
          fun complete => whole complete.listsWhole
        simp only [not_forall] at whole
        obtain ⟨rep, member, listed, broken⟩ := whole
        refine .inr ⟨⟨rep, member, listed, broken⟩, ?_⟩
        by_contra noneFails
        apply incomplete
        apply answer.exact.mp
        rw [isEntryAvailable_iff]
        refine ⟨List.ne_nil_of_mem member, notLost, ?_⟩
        intro other isOther otherListed
        by_contra fails
        exact noneFails ⟨other, isOther, otherListed, fails⟩
  · intro tell
    have exact : isEntryAvailable fileUrlPath disk
        (some (reps.map CommittedRep.row)) = true ↔
          IsComplete fileUrlPath disk reps := by
      rw [isEntryAvailable_iff]
      rcases tell with ⟨rep, member, lost⟩ | ⟨whole, passes⟩ |
        ⟨⟨rep, member, listed, broken⟩, other, isOther, otherListed, fails⟩
      · apply iff_of_false
        · rintro ⟨_, notLost, _⟩
          rw [notLost rep member] at lost
          cases lost
        · intro complete
          rw [complete.notLost rep member] at lost
          cases lost
      · constructor
        · rintro ⟨nonempty, notLost, _⟩
          exact ⟨nonempty, notLost, whole⟩
        · rintro ⟨nonempty, notLost, _⟩
          exact ⟨nonempty, notLost, passes⟩
      · apply iff_of_false
        · rintro ⟨_, _, passes⟩
          exact fails (passes other isOther otherListed)
        · intro complete
          exact broken (complete.listsWhole rep member listed)
    refine ⟨exact, fun ports existing wired => ?_⟩
    rw [← exact, ApplyInbound.isEntryAvailable, wired, Bool.not_eq_true]

theorem isEntryAvailable_sealed_iff {reps : List CommittedRep}
    (sealedAll : ∀ rep ∈ reps, rep.form ≠ .plain) :
    isEntryAvailable fileUrlPath disk (some (reps.map CommittedRep.row)) =
        true ↔
      reps ≠ [] ∧ (∀ rep ∈ reps, rep.isLost = false) ∧
        ∀ rep ∈ reps, rep.isList = true →
          rep.stored.rep.inlineData.isSome = true := by
  have passes : ∀ rep ∈ reps, rep.Passes fileUrlPath disk ↔
      rep.stored.rep.inlineData.isSome = true := by
    intro rep member
    have isSealed := sealedAll rep member
    unfold CommittedRep.Passes
    cases rep.stored.rep.inlineData with
    | none => simp
    | some content =>
        cases form : rep.form with
        | plain => exact absurd form isSealed
        | «sealed» nonce ciphertext aadFingerprint => simp
  rw [isEntryAvailable_iff]
  constructor
  · rintro ⟨nonempty, notLost, each⟩
    exact ⟨nonempty, notLost, fun rep member listed =>
      (passes rep member).mp (each rep member listed)⟩
  · rintro ⟨nonempty, notLost, each⟩
    exact ⟨nonempty, notLost, fun rep member listed =>
      (passes rep member).mpr (each rep member listed)⟩

end Exact

namespace Sample

def partialList : List UInt8 :=
  asBytes "uniclip-missing:///b.iso?size=10&reason=cancelled"

/-- Its row after the commit of the delivery. -/
def partialRep : CommittedRep where
  stored := {
    rep := {
      id := "r1"
      formatId := ⟨"files"⟩
      mimeType := some ⟨"text/uri-list"⟩
      sizeBytes := partialList.length
      inlineData := some partialList
      blobId := none
      payloadState := .inline
      lastError := none }
    captured := partialList
    keeps := rfl }
  form := .sealed [1] [2] none

/-- The partial entry counts as held. -/
theorem partial_countsAsHeld :
    ¬ ∀ reps, AvailabilityExact (fun _ => none) (fun _ => .absent) reps := by
  intro alwaysExact
  have available : isEntryAvailable (fun _ => none) (fun _ => .absent)
      (some ([partialRep].map CommittedRep.row)) = true := by
    rw [isEntryAvailable_sealed_iff (by simp [partialRep])]
    simp [CommittedRep.isLost, partialRep]
  have complete := (alwaysExact [partialRep]).exact.mp available
  obtain ⟨text, decoded, whole⟩ :=
    complete.listsWhole partialRep List.mem_cons_self (by decide +kernel)
  have isText : fromUtf8 partialList =
      some "uniclip-missing:///b.iso?size=10&reason=cancelled" :=
    fromUtf8_asBytes _
  cases isText.symm.trans decoded
  have listed : "uniclip-missing:///b.iso?size=10&reason=cancelled" ∈
      listedLines "uniclip-missing:///b.iso?size=10&reason=cancelled" := by
    decide +kernel
  have notPlaceholder := (whole _ listed).1
  exact absurd notPlaceholder (by decide +kernel)

end Sample

end OpenClipboard.Availability
