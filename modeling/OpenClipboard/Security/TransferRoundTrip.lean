import OpenClipboard.Security.TransferAuthenticity

/-!
# Transfers that come back

The adapter encrypts what fits a 32-bit length; the decoder refuses to make
more than `maxDecompressedSize` bytes.  Up to that size a transfer decrypts to
its plaintext, and beyond it the header is refused.
-/

namespace OpenClipboard.ChunkedTransfer

open Text

/-- The AEAD opens what it has encrypted, and a ciphertext is longer than its
plaintext by a tag. -/
structure TransferAead where
  encrypt : MasterKey → Nonce → List UInt8 → List UInt8 → List UInt8
  decrypt : MasterKey → Nonce → List UInt8 → List UInt8 → Option (List UInt8)
  decrypt_encrypt : ∀ key nonce plaintext aad,
    decrypt key nonce (encrypt key nonce plaintext aad) aad = some plaintext
  encrypt_length : ∀ key nonce plaintext aad,
    (encrypt key nonce plaintext aad).length = plaintext.length + tagSize

inductive TransferCipherError where
  | notUnlocked
  | invalidFormat
  | encryptionFailed
  | decryptionFailed
  | internal (message : String)
  deriving DecidableEq, Repr

/-- `ChunkedTransferError::to_string`. -/
def ChunkedTransferError.message : ChunkedTransferError → String
  | .invalidMagic => "invalid magic bytes"
  | .truncatedHeader => "stream ended before header was complete"
  | .truncatedChunk => "stream ended before chunk ciphertext was complete"
  | .decryptFailed chunkIndex =>
      s!"AEAD decryption failed for chunk {chunkIndex}"
  | .invalidCiphertextLen chunkIndex ciphertextLen =>
      s!"chunk {chunkIndex}: ciphertext_len {ciphertextLen}" ++
        " outside valid range"
  | .invalidHeader reason => "header validation failed: " ++ reason
  | .encryptFailed reason => "encryption failed: " ++ reason
  | .compressionFailed reason => "compression failed: " ++ reason
  | .decompressionFailed reason => "decompression failed: " ++ reason
  | .invalidCompressionAlgo algo => s!"invalid compression algorithm: {algo}"

def mapChunkedErrorForEncrypt : ChunkedTransferError → TransferCipherError
  | .encryptFailed _ => .encryptionFailed
  | .compressionFailed reason => .internal ("compression failed: " ++ reason)
  | other => .internal other.message

def mapChunkedErrorForDecrypt : ChunkedTransferError → TransferCipherError
  | .decryptFailed _ => .decryptionFailed
  | .encryptFailed _ => .decryptionFailed
  | .compressionFailed reason => .internal ("compression failed: " ++ reason)
  | _ => .invalidFormat

/-! ## The adapter

The session holds the master key while it is unlocked; the transfer id is the
UUID that was drawn. -/

section Adapter

variable (aead : TransferAead) (blake3 : Blake3) (zstd : Zstd)

def encryptTransfer (session : Option MasterKey) (transferId : TransferId)
    (plaintext : List UInt8) : Except TransferCipherError (List UInt8) :=
  match session with
  | none => .error .notUnlocked
  | some masterKey =>
      if 4294967295 < plaintext.length then
        .error (.internal
          s!"plaintext length {plaintext.length} exceeds u32::MAX")
      else
        match chooseEncoding zstd plaintext with
        | .error message => .error (.internal message)
        | .ok (data, compressionAlgo) =>
            match encodeTo aead.encrypt blake3 masterKey transferId data
                compressionAlgo plaintext.length with
            | .error err => .error (mapChunkedErrorForEncrypt err)
            | .ok bytes => .ok bytes

def decryptTransfer (session : Option MasterKey) (encrypted : List UInt8) :
    Except TransferCipherError (List UInt8) :=
  match session with
  | none => .error .notUnlocked
  | some masterKey =>
      if encrypted.length < 4 then
        .error .invalidFormat
      else if encrypted.take 4 ≠ v3Magic then
        .error .invalidFormat
      else
        match decodeFrom aead.decrypt blake3 zstd masterKey encrypted with
        | .error err => .error (mapChunkedErrorForDecrypt err)
        | .ok plaintext => .ok plaintext

end Adapter

/-! ## The header -/

theorem fieldAt_append {before rest : List UInt8} {offset width value : Nat}
    (atOffset : before.length = offset) (small : value < 256 ^ width) :
    fieldAt (before ++ (LittleEndian.encode width value ++ rest)) offset width =
      value := by
  unfold fieldAt
  rw [← atOffset, List.drop_left]
  have isField : (LittleEndian.encode width value ++ rest).take width =
      LittleEndian.encode width value := by
    apply List.take_left'
    exact LittleEndian.encode_length width value
  rw [isField]
  exact LittleEndian.decode_encode small

structure Header.Fits (header : Header) : Prop where
  uncompressedLen : header.uncompressedLen < 4294967296
  totalChunks : header.totalChunks < 4294967296
  chunkSizeHint : header.chunkSizeHint < 4294967296
  totalPlaintextLen : header.totalPlaintextLen < 4294967296

theorem Header.bytes_length (header : Header) :
    header.bytes.length = v3HeaderSize := by
  unfold Header.bytes
  simp only [List.length_append, LittleEndian.encode_length,
    header.transferId.length_eq]
  rfl

theorem Header.take_four (header : Header) (body : List UInt8) :
    (header.bytes ++ body).take 4 = v3Magic := by
  unfold Header.bytes
  simp only [List.append_assoc]
  exact List.take_left' rfl

variable {header : Header} {algo : UInt8} {plaintext data : List UInt8}

theorem readHeader_bytes (fits : header.Fits) (body : List UInt8) :
    readHeader (header.bytes ++ body) = .ok (header, body) := by
  have long : v3HeaderSize ≤ (header.bytes ++ body).length := by
    rw [List.length_append, header.bytes_length]
    exact Nat.le_add_right _ _
  have idLength := header.transferId.length_eq
  have algo : fieldAt (header.bytes ++ body) 4 1 =
      header.compressionAlgo.toNat := by
    unfold Header.bytes fieldAt
    simp [v3Magic, LittleEndian.decode]
  have uncompressed : fieldAt (header.bytes ++ body) 5 4 =
      header.uncompressedLen := by
    unfold Header.bytes
    simp only [List.append_assoc]
    rw [← List.append_assoc]
    exact fieldAt_append rfl fits.uncompressedLen
  have chunks : fieldAt (header.bytes ++ body) 25 4 = header.totalChunks := by
    unfold Header.bytes
    rw [List.append_assoc, List.append_assoc, List.append_assoc]
    apply fieldAt_append _ fits.totalChunks
    simp [v3Magic, idLength]
  have hint : fieldAt (header.bytes ++ body) 29 4 = header.chunkSizeHint := by
    unfold Header.bytes
    rw [List.append_assoc, List.append_assoc]
    apply fieldAt_append _ fits.chunkSizeHint
    simp [v3Magic, idLength]
  have total : fieldAt (header.bytes ++ body) 33 4 =
      header.totalPlaintextLen := by
    unfold Header.bytes
    rw [List.append_assoc]
    apply fieldAt_append _ fits.totalPlaintextLen
    simp [v3Magic, idLength]
  have isId : ((header.bytes ++ body).drop 9).take 16 =
      header.transferId.bytes := by
    have split : header.bytes ++ body =
        (v3Magic ++ [header.compressionAlgo] ++
          LittleEndian.encode 4 header.uncompressedLen) ++
            (header.transferId.bytes ++
              (LittleEndian.encode 4 header.totalChunks ++
                LittleEndian.encode 4 header.chunkSizeHint ++
                LittleEndian.encode 4 header.totalPlaintextLen ++ body)) := by
      unfold Header.bytes
      simp only [List.append_assoc]
    rw [split, List.drop_left' (by simp [v3Magic]), List.take_left' idLength]
  have rest : (header.bytes ++ body).drop v3HeaderSize = body :=
    List.drop_left' header.bytes_length
  unfold readHeader
  rw [dif_pos long, if_neg (not_not.mpr (header.take_four body))]
  simp only [algo, uncompressed, chunks, hint, total, isId, rest,
    UInt8.ofNat_toNat]

/-! ## The chunks -/

theorem length_le_chunkCount (data : List UInt8) :
    data.length ≤ chunkCount data * chunkSize := by
  unfold chunkCount chunkSize
  omega

theorem chunkCount_pos_iff {data : List UInt8} :
    0 < chunkCount data ↔ 0 < data.length := by
  unfold chunkCount chunkSize
  omega

theorem chunkCount_le (data : List UInt8) :
    chunkCount data ≤ data.length := by
  unfold chunkCount chunkSize
  omega

section RoundTrip

variable {aead : TransferAead} {blake3 : Blake3} {zstd : Zstd}
variable {masterKey : MasterKey} {transferId : TransferId}

variable (aead blake3 masterKey transferId) in
theorem sealChunk_length (data : List UInt8) (index : Nat) :
    tagSize ≤ (sealChunk aead.encrypt blake3 masterKey transferId data
        index).length ∧
      (sealChunk aead.encrypt blake3 masterKey transferId data index).length ≤
        chunkSize + tagSize := by
  have chunkLength : (chunkAt data index).length ≤ chunkSize :=
    List.length_take_le _ _
  unfold sealChunk
  rw [aead.encrypt_length]
  omega

theorem readChunks_frame (data rest : List UInt8) (count index : Nat) :
    readChunks aead.decrypt blake3 masterKey transferId (count + 1) index
        (frame (sealChunk aead.encrypt blake3 masterKey transferId data
          index) ++ rest) =
      (readChunks aead.decrypt blake3 masterKey transferId count (index + 1)
        rest).map (chunkAt data index ++ ·) := by
  obtain ⟨longEnough, shortEnough⟩ := sealChunk_length aead blake3 masterKey
    transferId data index
  have opens : aead.decrypt masterKey
      (deriveChunkNonce blake3 transferId index)
      (sealChunk aead.encrypt blake3 masterKey transferId data index)
      (forChunkTransfer transferId index) = some (chunkAt data index) :=
    aead.decrypt_encrypt _ _ _ _
  generalize sealChunk aead.encrypt blake3 masterKey transferId data index =
    ciphertext at longEnough shortEnough opens ⊢
  have announced : fieldAt (frame ciphertext ++ rest) 0 4 =
      ciphertext.length := by
    unfold frame
    rw [List.append_assoc]
    show fieldAt ([] ++ (LittleEndian.encode 4 ciphertext.length ++
      (ciphertext ++ rest))) 0 4 = ciphertext.length
    apply fieldAt_append rfl
    unfold chunkSize tagSize at shortEnough
    norm_num
    omega
  have behind : (frame ciphertext ++ rest).drop 4 = ciphertext ++ rest := by
    unfold frame
    rw [List.append_assoc]
    exact List.drop_left' (LittleEndian.encode_length 4 _)
  have fourBytes : ¬ (frame ciphertext ++ rest).length < 4 := by
    unfold frame
    rw [List.length_append, List.length_append, LittleEndian.encode_length]
    omega
  have inRange : ¬ (ciphertext.length < tagSize ∨
      chunkSize + tagSize < ciphertext.length) := by
    omega
  have complete : ¬ (ciphertext ++ rest).length < ciphertext.length := by
    rw [List.length_append]
    omega
  rw [readChunks]
  simp only [announced, behind]
  rw [if_neg fourBytes, if_neg inRange, if_neg complete, List.take_left,
    List.drop_left]
  simp only [opens]

theorem readChunks_frames (data : List UInt8) (count index : Nat) :
    readChunks aead.decrypt blake3 masterKey transferId count index
        (frames aead.encrypt blake3 masterKey transferId data count index) =
      .ok ((data.drop (index * chunkSize)).take (count * chunkSize)) := by
  induction count generalizing index with
  | zero =>
      rw [readChunks, Nat.zero_mul, List.take_zero]
  | succ count inductionHypothesis =>
      rw [frames, readChunks_frame, inductionHypothesis (index + 1),
        ← chunkAt_append]
      rfl

theorem readChunks_all (data : List UInt8) :
    readChunks aead.decrypt blake3 masterKey transferId (chunkCount data) 0
        (frames aead.encrypt blake3 masterKey transferId data
          (chunkCount data) 0) = .ok data := by
  rw [readChunks_frames, Nat.zero_mul, List.drop_zero,
    List.take_of_length_le (length_le_chunkCount data)]

/-! ## The whole transfer -/

def writtenHeader (transferId : TransferId) (data : List UInt8)
    (compressionAlgo : UInt8) (uncompressedLen : Nat) : Header where
  compressionAlgo := compressionAlgo
  uncompressedLen := uncompressedLen
  transferId := transferId
  totalChunks := chunkCount data
  chunkSizeHint := chunkSize
  totalPlaintextLen := data.length

theorem writtenHeader_fits {data plaintext : List UInt8}
    {compressionAlgo : UInt8} (short : plaintext.length ≤ 4294967295)
    (smaller : data.length ≤ plaintext.length) :
    (writtenHeader transferId data compressionAlgo plaintext.length).Fits := by
  have fewChunks := chunkCount_le data
  constructor <;> simp only [writtenHeader, chunkSize] <;> omega

theorem chooseEncoding_length_le
    (chosen : chooseEncoding zstd plaintext = .ok (data, algo)) :
    data.length ≤ plaintext.length := by
  rcases chooseEncoding_cases chosen with ⟨_, isPlain⟩ | ⟨_, _, smaller⟩
  · rw [isPlain]
  · exact Nat.le_of_lt smaller

theorem checkHeader_eq_ok_iff :
    checkHeader header = .ok () ↔
      (0 < header.totalChunks → 0 < header.totalPlaintextLen) ∧
        header.totalPlaintextLen ≤ header.totalChunks * chunkSize ∧
        header.totalPlaintextLen ≤ maxDecompressedSize ∧
        (header.compressionAlgo = 0 →
          header.uncompressedLen = header.totalPlaintextLen) ∧
        (header.compressionAlgo = 1 →
          header.uncompressedLen ≤ maxDecompressedSize) := by
  unfold checkHeader
  simp only
  split
  · rename_i phantom
    apply iff_of_false nofun
    rintro ⟨nonempty, _⟩
    have long := nonempty phantom.1
    omega
  · rename_i noPhantom
    split
    · apply iff_of_false nofun
      rintro ⟨_, roomy, _⟩
      omega
    · split
      · apply iff_of_false nofun
        rintro ⟨_, _, within, _⟩
        omega
      · split
        · rename_i differs
          apply iff_of_false nofun
          rintro ⟨_, _, _, same, _⟩
          exact differs.2 (same differs.1)
        · rename_i noDifference
          split
          · rename_i tooLong
            apply iff_of_false nofun
            rintro ⟨_, _, _, _, within⟩
            exact not_lt.mpr (within tooLong.1) tooLong.2
          · rename_i notTooLong
            refine iff_of_true rfl ⟨?_, by omega, by omega, ?_, ?_⟩
            · intro nonempty
              by_contra empty
              exact noPhantom ⟨nonempty, by omega⟩
            · intro isPlain
              by_contra differs
              exact noDifference ⟨isPlain, differs⟩
            · intro isFrame
              by_contra tooLong
              exact notTooLong ⟨isFrame, not_le.mp tooLong⟩

variable (transferId) in
/-- The decoder takes the header of a transfer exactly up to the size cap: a
plain transfer is measured by its data, a compressed one by what it declares. -/
theorem checkHeader_written
    (chosen : chooseEncoding zstd plaintext = .ok (data, algo)) :
    checkHeader (writtenHeader transferId data algo plaintext.length) = .ok () ↔
      plaintext.length ≤ maxDecompressedSize := by
  rw [checkHeader_eq_ok_iff]
  simp only [writtenHeader]
  constructor
  · rintro ⟨_, _, within, isPlain, isFrame⟩
    rcases chooseEncoding_cases chosen with ⟨plain, _⟩ | ⟨frame, _, _⟩
    · rw [isPlain plain]
      exact within
    · exact isFrame frame
  · intro within
    have smaller := chooseEncoding_length_le chosen
    refine ⟨chunkCount_pos_iff.mp, length_le_chunkCount data, by omega, ?_,
      fun _ => within⟩
    intro plain
    rcases chooseEncoding_cases chosen with ⟨_, isData⟩ | ⟨frame, _, _⟩
    · rw [isData]
    · rw [frame] at plain
      cases plain

variable (transferId) in
theorem unpack_chosen
    (chosen : chooseEncoding zstd plaintext = .ok (data, algo)) :
    unpack zstd (writtenHeader transferId data algo plaintext.length) data =
      .ok plaintext := by
  have isAlgo : (writtenHeader transferId data algo
      plaintext.length).compressionAlgo = algo := rfl
  have isLength : (writtenHeader transferId data algo
      plaintext.length).uncompressedLen = plaintext.length := rfl
  unfold unpack
  rw [isAlgo, isLength]
  rcases chooseEncoding_cases chosen with
    ⟨isPlain, isData⟩ | ⟨isFrame, compressed, _⟩
  · rw [if_pos isPlain, isData]
  · have expands := zstd.lossless plaintext data plaintext.length compressed
      (Nat.le_refl _)
    rw [if_neg (by rw [isFrame]; decide), if_pos isFrame, expands]

variable (aead blake3 masterKey) in
/-- Behind a header that announces them, the frames of some data decode to what
the data unpacks to, unless the header is refused. -/
theorem decodeFrom_frames {data plaintext : List UInt8} (fits : header.Fits)
    (sameCount : header.totalChunks = chunkCount data)
    (sameLength : header.totalPlaintextLen = data.length)
    (unpacked : unpack zstd header data = .ok plaintext) :
    decodeFrom aead.decrypt blake3 zstd masterKey
        (header.bytes ++ frames aead.encrypt blake3 masterKey header.transferId
          data (chunkCount data) 0) =
      (checkHeader header).map fun _ => plaintext := by
  have declared : ¬ data.length ≠ header.totalPlaintextLen :=
    not_not.mpr sameLength.symm
  unfold decodeFrom
  rw [readHeader_bytes fits]
  simp only
  cases checkHeader header with
  | error err => rfl
  | ok accepted =>
      unfold decodeBody
      rw [sameCount, readChunks_all data]
      simp only
      rw [if_neg declared, unpacked]
      rfl

variable (aead blake3 masterKey transferId) in
/-- A transfer decodes to its plaintext, unless its header is refused. -/
theorem decodeFrom_written
    (chosen : chooseEncoding zstd plaintext = .ok (data, algo))
    (short : plaintext.length ≤ 4294967295) :
    decodeFrom aead.decrypt blake3 zstd masterKey
        ((writtenHeader transferId data algo plaintext.length).bytes ++
          frames aead.encrypt blake3 masterKey transferId data
            (chunkCount data) 0) =
      (checkHeader (writtenHeader transferId data algo
        plaintext.length)).map fun _ => plaintext := by
  have sameId : (writtenHeader transferId data algo
      plaintext.length).transferId = transferId := rfl
  have decoded := decodeFrom_frames aead blake3 masterKey
    (writtenHeader_fits short (chooseEncoding_length_le chosen)) rfl rfl
    (unpack_chosen transferId chosen)
  rw [sameId] at decoded
  exact decoded

theorem encryptTransfer_eq_ok {session : Option MasterKey}
    {plaintext encrypted : List UInt8}
    (done : encryptTransfer aead blake3 zstd session transferId plaintext =
      .ok encrypted) :
    ∃ masterKey data algo, session = some masterKey ∧
      plaintext.length ≤ 4294967295 ∧
      chooseEncoding zstd plaintext = .ok (data, algo) ∧
      encrypted = (writtenHeader transferId data algo plaintext.length).bytes ++
        frames aead.encrypt blake3 masterKey transferId data
          (chunkCount data) 0 := by
  unfold encryptTransfer at done
  split at done
  · cases done
  · rename_i masterKey
    split at done
    · cases done
    · rename_i short
      split at done
      · cases done
      · rename_i data algo chosen
        refine ⟨masterKey, data, algo, rfl, not_lt.mp short, chosen, ?_⟩
        have smaller := chooseEncoding_length_le chosen
        have dataShort : ¬ 4294967295 < data.length := by omega
        unfold encodeTo at done
        rw [if_neg dataShort] at done
        cases done
        rfl

variable (aead blake3 masterKey transferId) in
theorem encryptTransfer_of_chosen (short : plaintext.length ≤ 4294967295)
    (chosen : chooseEncoding zstd plaintext = .ok (data, algo)) :
    ∃ encrypted, encryptTransfer aead blake3 zstd (some masterKey) transferId
      plaintext = .ok encrypted := by
  have smaller := chooseEncoding_length_le chosen
  have dataShort : ¬ 4294967295 < data.length := by omega
  unfold encryptTransfer
  simp only
  rw [if_neg (not_lt.mpr short), chosen]
  simp only
  unfold encodeTo
  rw [if_neg dataShort]
  exact ⟨_, rfl⟩

theorem decryptTransfer_written {body : List UInt8} :
    decryptTransfer aead blake3 zstd (some masterKey) (header.bytes ++ body) =
      match decodeFrom aead.decrypt blake3 zstd masterKey
          (header.bytes ++ body) with
      | .error err => .error (mapChunkedErrorForDecrypt err)
      | .ok plaintext => .ok plaintext := by
  have long : ¬ (header.bytes ++ body).length < 4 := by
    rw [List.length_append, header.bytes_length]
    unfold v3HeaderSize
    omega
  unfold decryptTransfer
  simp only
  rw [if_neg long, if_neg (not_not.mpr (header.take_four body))]

theorem checkHeader_eq_error {err : ChunkedTransferError}
    (refused : checkHeader header = .error err) :
    ∃ reason, err = .invalidHeader reason := by
  unfold checkHeader at refused
  simp only at refused
  split at refused
  · cases refused
    exact ⟨_, rfl⟩
  · split at refused
    · cases refused
      exact ⟨_, rfl⟩
    · split at refused
      · cases refused
        exact ⟨_, rfl⟩
      · split at refused
        · cases refused
          exact ⟨_, rfl⟩
        · split at refused
          · cases refused
            exact ⟨_, rfl⟩
          · cases refused

theorem decryptTransfer_beyond {session : Option MasterKey}
    {plaintext encrypted : List UInt8}
    (done : encryptTransfer aead blake3 zstd session transferId plaintext =
      .ok encrypted)
    (tooLong : maxDecompressedSize < plaintext.length) :
    decryptTransfer aead blake3 zstd session encrypted =
      .error .invalidFormat := by
  obtain ⟨masterKey, data, algo, unlocked, short, chosen, isEncrypted⟩ :=
    encryptTransfer_eq_ok done
  rw [unlocked, isEncrypted, decryptTransfer_written,
    decodeFrom_written aead blake3 masterKey transferId chosen short]
  cases checked : checkHeader (writtenHeader transferId data algo
      plaintext.length) with
  | ok taken =>
      have within := (checkHeader_written transferId chosen).mp checked
      omega
  | error err =>
      obtain ⟨reason, isHeader⟩ := checkHeader_eq_error checked
      rw [isHeader]
      rfl

end RoundTrip

/-- For every key and every plaintext that the adapter encrypts: up to the size
cap the result decrypts under the same key to exactly that plaintext, and beyond
it the decoder refuses it. -/
theorem decryptTransfer_encryptTransfer (aead : TransferAead) (blake3 : Blake3)
    (zstd : Zstd) (session : Option MasterKey) (transferId : TransferId)
    (plaintext encrypted : List UInt8)
    (done : encryptTransfer aead blake3 zstd session transferId plaintext =
      .ok encrypted) :
    decryptTransfer aead blake3 zstd session encrypted =
      if plaintext.length ≤ maxDecompressedSize then
        .ok plaintext
      else
        .error .invalidFormat := by
  by_cases within : plaintext.length ≤ maxDecompressedSize
  · rw [if_pos within]
    obtain ⟨masterKey, data, algo, unlocked, short, chosen, isEncrypted⟩ :=
      encryptTransfer_eq_ok done
    have accepted := (checkHeader_written transferId chosen).mpr within
    rw [unlocked, isEncrypted, decryptTransfer_written,
      decodeFrom_written aead blake3 masterKey transferId chosen short,
      accepted]
    rfl
  · rw [if_neg within]
    exact decryptTransfer_beyond done (not_le.mp within)

/-! ## Transfers under a transparent AEAD -/

namespace Sample

/-- The tag is sixteen zeros. -/
def transparent : TransferAead where
  encrypt _ _ plaintext _ := plaintext ++ List.replicate 16 0
  decrypt _ _ ciphertext _ :=
    some (ciphertext.take (ciphertext.length - 16))
  decrypt_encrypt _ _ plaintext _ := by
    simp
  encrypt_length _ _ plaintext _ := by
    rw [List.length_append, List.length_replicate]
    rfl

theorem chooseEncoding_noGain (plaintext : List UInt8) :
    chooseEncoding zstd plaintext = .ok (plaintext, 0) := by
  have noGain : zstd.compress plaintext = .ok plaintext := rfl
  unfold chooseEncoding
  split
  · simp only [noGain]
    rw [if_neg (Nat.lt_irrefl _)]
  · rfl

/-- One byte more than the decoder makes. -/
def overCap : List UInt8 := List.replicate (maxDecompressedSize + 1) 0

theorem overCap_length : overCap.length = maxDecompressedSize + 1 :=
  List.length_replicate

end Sample

open Sample in
theorem threeBytes_return :
    encryptTransfer transparent blake3 zstd (some (sampleKey 1)) transferId
        [1, 2, 3] = .ok sent ∧
      decryptTransfer transparent blake3 zstd (some (sampleKey 1)) sent =
        .ok [1, 2, 3] := by
  have encrypted : encryptTransfer transparent blake3 zstd
      (some (sampleKey 1)) transferId [1, 2, 3] = .ok sent := by
    decide +kernel
  have back := decryptTransfer_encryptTransfer transparent blake3 zstd
    (some (sampleKey 1)) transferId [1, 2, 3] sent encrypted
  exact ⟨encrypted, back.trans (if_pos (by decide))⟩

open Sample in
/-- Beyond the cap the adapter encrypts what it does not decrypt. -/
theorem overCap_isLost :
    ¬ ∀ (aead : TransferAead) (blake3 : Blake3) (zstd : Zstd)
      (session : Option MasterKey) (transferId : TransferId)
      (plaintext encrypted : List UInt8),
      encryptTransfer aead blake3 zstd session transferId plaintext =
        .ok encrypted →
      decryptTransfer aead blake3 zstd session encrypted = .ok plaintext := by
  intro returns
  have short : overCap.length ≤ 4294967295 := by
    rw [overCap_length]
    decide
  obtain ⟨encrypted, done⟩ := encryptTransfer_of_chosen transparent blake3
    (sampleKey 1) transferId short (chooseEncoding_noGain overCap)
  have back := returns _ _ _ _ _ _ _ done
  have refused := decryptTransfer_beyond done (by
    rw [overCap_length]
    exact Nat.lt_succ_self _)
  rw [refused] at back
  cases back

end OpenClipboard.ChunkedTransfer
