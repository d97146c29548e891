import OpenClipboard.Security.ChunkedTransfer

/-!
# What a transfer that decodes is made of

An adversary may put any bytes in front of the decoder.  Against an ideal AEAD
every chunk that opens is the chunk of the same index of a transfer that was
encrypted under the same key and id, so what decodes is the beginning of one
transfer.  How long a beginning, and whether it is decompressed, is up to the
header.
-/

namespace OpenClipboard.ChunkedTransfer

/-- One call of `TransferCipherAdapter::encrypt` that succeeded. -/
structure Transfer (zstd : Zstd) where
  masterKey : MasterKey
  transferId : TransferId
  plaintext : List UInt8
  data : List UInt8
  compressionAlgo : UInt8
  chosen : chooseEncoding zstd plaintext = .ok (data, compressionAlgo)
  short : data.length ≤ 4294967295

/-- The transfers of the past.  The AEAD has opened chunks of no other, and no
id was drawn twice for one key. -/
structure TransferHistory (zstd : Zstd) where
  aead : IdealAead MasterKey Nonce
  past : List (Transfer zstd)
  issuedChunk : ∀ issue ∈ aead.issued, ∀ transferId index,
    index < 4294967296 → issue.aad = forChunkTransfer transferId index →
      ∃ transfer ∈ past, transfer.masterKey = issue.key ∧
        transfer.transferId = transferId ∧ index < chunkCount transfer.data ∧
        issue.plaintext = chunkAt transfer.data index
  idsFresh : ∀ first ∈ past, ∀ second ∈ past,
    first.masterKey = second.masterKey →
      first.transferId = second.transferId → first = second

/-- What is decoded from a header and the data it announces. -/
structure BeginningOf {zstd : Zstd} (encrypt : MasterKey → Nonce →
    List UInt8 → List UInt8 → List UInt8) (blake3 : Blake3)
    (transfer : Transfer zstd) (header : Header) (body plaintext : List UInt8) :
    Prop where
  /-- The chunks are those of the transfer, in its order and from its first. -/
  chunks : ∃ rest, body = frames encrypt blake3 transfer.masterKey
    transfer.transferId transfer.data header.totalChunks 0 ++ rest
  within : header.totalChunks ≤ chunkCount transfer.data
  declared : header.totalPlaintextLen =
    min (header.totalChunks * chunkSize) transfer.data.length
  unpacked : unpack zstd header
    (transfer.data.take header.totalPlaintextLen) = .ok plaintext

/-! ## The chunks -/

theorem chunkAt_append (data : List UInt8) (index count : Nat) :
    chunkAt data index ++
        (data.drop ((index + 1) * chunkSize)).take (count * chunkSize) =
      (data.drop (index * chunkSize)).take ((count + 1) * chunkSize) := by
  have next : (index + 1) * chunkSize = index * chunkSize + chunkSize := by
    ring
  have longer : (count + 1) * chunkSize = chunkSize + count * chunkSize := by
    ring
  unfold chunkAt
  rw [next, longer, List.take_add, List.drop_drop]

theorem forChunkTransfer_inj {transferId other : TransferId}
    {index otherIndex : Nat} (small : index < 4294967296)
    (otherSmall : otherIndex < 4294967296)
    (same : forChunkTransfer transferId index =
      forChunkTransfer other otherIndex) :
    transferId = other ∧ index = otherIndex := by
  have sameLength : transferId.bytes.length = other.bytes.length := by
    rw [transferId.length_eq, other.length_eq]
  obtain ⟨sameBytes, sameIndex⟩ := List.append_inj same sameLength
  constructor
  · cases transferId
    cases other
    cases sameBytes
    rfl
  · have decoded := congrArg LittleEndian.decode sameIndex
    rwa [LittleEndian.decode_encode (by simpa using small),
      LittleEndian.decode_encode (by simpa using otherSmall)] at decoded

theorem eq_frame_append {bytes ciphertext : List UInt8}
    (long : 4 ≤ bytes.length)
    (isNext : (bytes.drop 4).take (fieldAt bytes 0 4) = ciphertext)
    (isThere : fieldAt bytes 0 4 ≤ (bytes.drop 4).length) :
    bytes = frame ciphertext ++ (bytes.drop 4).drop (fieldAt bytes 0 4) := by
  have isLength : ciphertext.length = fieldAt bytes 0 4 := by
    rw [← isNext, List.length_take, min_eq_left isThere]
  have prefixLength : (bytes.take 4).length = 4 := by
    rw [List.length_take, min_eq_left long]
  have announced : LittleEndian.encode 4 ciphertext.length = bytes.take 4 := by
    have decoded := LittleEndian.encode_decode (bytes.take 4)
    rw [prefixLength] at decoded
    rw [isLength]
    exact decoded
  unfold frame
  rw [announced, ← isNext, List.append_assoc, List.take_append_drop,
    List.take_append_drop]

section Authenticity

variable {zstd : Zstd} {history : TransferHistory zstd} {blake3 : Blake3}
variable {masterKey : MasterKey} {transferId : TransferId}

theorem readChunks_succ {decrypt : MasterKey → Nonce → List UInt8 →
      List UInt8 → Option (List UInt8)} {count index : Nat}
    {bytes decrypted : List UInt8}
    (read : readChunks decrypt blake3 masterKey transferId (count + 1) index
      bytes = .ok decrypted) :
    ∃ ciphertext chunk rest others, bytes = frame ciphertext ++ rest ∧
      decrypt masterKey (deriveChunkNonce blake3 transferId index) ciphertext
        (forChunkTransfer transferId index) = some chunk ∧
      readChunks decrypt blake3 masterKey transferId count (index + 1) rest =
        .ok others ∧
      decrypted = chunk ++ others := by
  unfold readChunks at read
  simp only at read
  split at read
  · cases read
  · rename_i long
    split at read
    · cases read
    · split at read
      · cases read
      · rename_i isThere
        split at read
        · cases read
        · rename_i chunk opened
          cases later : readChunks decrypt blake3 masterKey transferId count
              (index + 1) ((bytes.drop 4).drop (fieldAt bytes 0 4)) with
          | error err =>
              rw [later] at read
              cases read
          | ok others =>
              rw [later] at read
              cases read
              exact ⟨_, chunk, _, others,
                eq_frame_append (not_lt.mp long) rfl (not_lt.mp isThere),
                opened, later, rfl⟩

theorem chunk_of_decrypt {index : Nat} {ciphertext chunk : List UInt8}
    (small : index < 4294967296)
    (opened : history.aead.decrypt masterKey
      (deriveChunkNonce blake3 transferId index) ciphertext
      (forChunkTransfer transferId index) = some chunk) :
    ∃ transfer ∈ history.past, transfer.masterKey = masterKey ∧
      transfer.transferId = transferId ∧ index < chunkCount transfer.data ∧
      chunk = chunkAt transfer.data index ∧
      ciphertext = sealChunk history.aead.encrypt blake3 masterKey transferId
        transfer.data index := by
  obtain ⟨issued, isCiphertext⟩ := history.aead.authentic _ _ _ _ _ opened
  obtain ⟨transfer, member, sameKey, sameId, inside, isChunk⟩ :=
    history.issuedChunk _ issued transferId index small rfl
  refine ⟨transfer, member, sameKey, sameId, inside, isChunk, ?_⟩
  rw [isCiphertext, sealChunk]
  simp only at isChunk
  rw [isChunk]

theorem readChunks_authentic {transfer : Transfer zstd}
    (member : transfer ∈ history.past)
    (sameKey : transfer.masterKey = masterKey)
    (sameId : transfer.transferId = transferId) {count index : Nat}
    {bytes decrypted : List UInt8} (small : index + count ≤ 4294967296)
    (inside : index ≤ chunkCount transfer.data)
    (read : readChunks history.aead.decrypt blake3 masterKey transferId count
      index bytes = .ok decrypted) :
    decrypted =
        (transfer.data.drop (index * chunkSize)).take (count * chunkSize) ∧
      index + count ≤ chunkCount transfer.data ∧
      ∃ rest, bytes = frames history.aead.encrypt blake3 masterKey transferId
        transfer.data count index ++ rest := by
  induction count generalizing index bytes decrypted with
  | zero =>
      unfold readChunks at read
      cases read
      refine ⟨by simp, inside, bytes, rfl⟩
  | succ count inductionHypothesis =>
      obtain ⟨ciphertext, chunk, rest, others, isBytes, opened, later,
        isDecrypted⟩ := readChunks_succ read
      obtain ⟨other, otherMember, otherKey, otherId, hasChunk, isChunk,
        isCiphertext⟩ := chunk_of_decrypt (by omega) opened
      -- Ids are used once, so every chunk names the same transfer.
      have same : other = transfer :=
        history.idsFresh other otherMember transfer member
          (otherKey.trans sameKey.symm) (otherId.trans sameId.symm)
      subst same
      obtain ⟨isOthers, within, tail, isRest⟩ :=
        inductionHypothesis (by omega : index + 1 + count ≤ 4294967296)
          hasChunk later
      refine ⟨?_, by omega, tail, ?_⟩
      · rw [isDecrypted, isChunk, isOthers, chunkAt_append]
      · rw [isBytes, isRest, isCiphertext, frames, List.append_assoc]

end Authenticity

/-! ## The header -/

theorem fieldAt_lt (bytes : List UInt8) (offset : Nat) :
    fieldAt bytes offset 4 < 4294967296 := by
  unfold fieldAt
  have small := LittleEndian.decode_lt ((bytes.drop offset).take 4)
  have fewBytes : ((bytes.drop offset).take 4).length ≤ 4 :=
    List.length_take_le 4 _
  calc LittleEndian.decode ((bytes.drop offset).take 4)
      < 256 ^ ((bytes.drop offset).take 4).length := small
    _ ≤ 256 ^ 4 := Nat.pow_le_pow_right (by omega) fewBytes
    _ = 4294967296 := by norm_num

theorem totalChunks_lt {bytes body : List UInt8} {header : Header}
    (read : readHeader bytes = .ok (header, body)) :
    header.totalChunks < 4294967296 := by
  unfold readHeader at read
  split at read
  · split at read
    · cases read
    · cases read
      exact fieldAt_lt bytes 25
  · cases read

theorem chooseEncoding_cases {zstd : Zstd} {plaintext data : List UInt8}
    {algo : UInt8} (chosen : chooseEncoding zstd plaintext = .ok (data, algo)) :
    (algo = 0 ∧ data = plaintext) ∨
      (algo = 1 ∧ zstd.compress plaintext = .ok data ∧
        data.length < plaintext.length) := by
  unfold chooseEncoding at chosen
  split at chosen
  · split at chosen
    · cases chosen
    · rename_i compressed isCompressed
      split at chosen
      · rename_i smaller
        cases chosen
        exact Or.inr ⟨rfl, isCompressed, smaller⟩
      · cases chosen
        exact Or.inl ⟨rfl, rfl⟩
  · cases chosen
    exact Or.inl ⟨rfl, rfl⟩

theorem Transfer.unpack_data {zstd : Zstd} (transfer : Transfer zstd)
    {header : Header} {plaintext : List UInt8}
    (sameAlgo : header.compressionAlgo = transfer.compressionAlgo)
    (unpacked : unpack zstd header transfer.data = .ok plaintext) :
    plaintext = transfer.plaintext := by
  unfold unpack at unpacked
  rcases chooseEncoding_cases transfer.chosen with
    ⟨isPlain, isData⟩ | ⟨isFrame, compressed, _⟩
  · rw [sameAlgo, isPlain, if_pos rfl] at unpacked
    cases unpacked
    exact isData
  · rw [sameAlgo, isFrame, if_neg (by decide), if_pos rfl] at unpacked
    split at unpacked
    · cases unpacked
    · rename_i out expanded
      cases unpacked
      exact zstd.faithful _ _ _ _ compressed expanded

theorem decodeFrom_eq_ok {decrypt : MasterKey → Nonce → List UInt8 →
      List UInt8 → Option (List UInt8)} {blake3 : Blake3} {zstd : Zstd}
    {masterKey : MasterKey} {bytes plaintext : List UInt8}
    (decoded : decodeFrom decrypt blake3 zstd masterKey bytes =
      .ok plaintext) :
    ∃ header body decrypted, readHeader bytes = .ok (header, body) ∧
      readChunks decrypt blake3 masterKey header.transferId header.totalChunks
        0 body = .ok decrypted ∧
      decrypted.length = header.totalPlaintextLen ∧
      unpack zstd header decrypted = .ok plaintext := by
  unfold decodeFrom at decoded
  split at decoded
  · cases decoded
  · rename_i header body read
    split at decoded
    · cases decoded
    · unfold decodeBody at decoded
      split at decoded
      · cases decoded
      · rename_i decrypted chunks
        split at decoded
        · cases decoded
        · rename_i declared
          exact ⟨header, body, decrypted, read, chunks, not_not.mp declared,
            decoded⟩

/-- What decodes has no chunks, or it is the beginning of one transfer that was
encrypted under the key and the id of the header: its first chunks in their
order, as many as the header says.  Where the header names the length and the
compression of the transfer, it is the plaintext of the transfer. -/
theorem decodeFrom_authentic {zstd : Zstd} (history : TransferHistory zstd)
    (blake3 : Blake3) {masterKey : MasterKey} {bytes plaintext : List UInt8}
    (decoded : decodeFrom history.aead.decrypt blake3 zstd masterKey bytes =
      .ok plaintext) :
    ∃ header body, readHeader bytes = .ok (header, body) ∧
      ((header.totalChunks = 0 ∧ unpack zstd header [] = .ok plaintext) ∨
        ∃ transfer ∈ history.past, transfer.masterKey = masterKey ∧
          transfer.transferId = header.transferId ∧
          BeginningOf history.aead.encrypt blake3 transfer header body
            plaintext ∧
          (header.compressionAlgo = transfer.compressionAlgo →
            header.totalPlaintextLen = transfer.data.length →
              plaintext = transfer.plaintext)) := by
  obtain ⟨header, body, decrypted, read, chunks, declared, unpacked⟩ :=
    decodeFrom_eq_ok decoded
  have small := totalChunks_lt read
  refine ⟨header, body, read, ?_⟩
  cases someChunks : header.totalChunks with
  | zero =>
      left
      rw [someChunks, readChunks] at chunks
      cases chunks
      exact ⟨rfl, unpacked⟩
  | succ others =>
      right
      have first := chunks
      rw [someChunks] at first
      obtain ⟨_, _, _, _, _, opened, _, _⟩ := readChunks_succ first
      obtain ⟨transfer, member, sameKey, sameId, _⟩ :=
        chunk_of_decrypt (by norm_num) opened
      obtain ⟨isDecrypted, within, rest, isBody⟩ :=
        readChunks_authentic member sameKey sameId (by omega) (Nat.zero_le _)
          chunks
      rw [Nat.zero_mul, List.drop_zero] at isDecrypted
      rw [Nat.zero_add] at within
      have length : header.totalPlaintextLen =
          min (header.totalChunks * chunkSize) transfer.data.length := by
        rw [← declared, isDecrypted, List.length_take]
      have isTaken : transfer.data.take header.totalPlaintextLen =
          decrypted := by
        rw [length, ← List.take_eq_take_min, isDecrypted]
      refine ⟨transfer, member, sameKey, sameId, ?_, ?_⟩
      · refine ⟨⟨rest, ?_⟩, within, length, ?_⟩
        · rw [sameKey, sameId]
          exact isBody
        · rw [isTaken]
          exact unpacked
      · intro sameAlgo wholeLength
        apply transfer.unpack_data sameAlgo
        rw [← isTaken, wholeLength, List.take_length] at unpacked
        exact unpacked

/-! ## A transfer of three bytes -/

namespace Sample

def blake3 : Blake3 := fun bytes =>
  ⟨(bytes ++ List.replicate 32 0).take 32, length_filled bytes⟩

/-- A codec that leaves data as it is. -/
def zstd : Zstd where
  compress := .ok
  decompress frame capacity :=
    if frame.length ≤ capacity then .ok frame
    else .error "Destination buffer is too small"
  lossless data frame capacity compressed room := by
    cases compressed
    exact if_pos room
  faithful data frame capacity out compressed expanded := by
    cases compressed
    split at expanded <;> cases expanded
    rfl

def transferId : TransferId :=
  ⟨List.replicate 16 7, List.length_replicate⟩

def transfer : Transfer zstd where
  masterKey := sampleKey 1
  transferId := transferId
  plaintext := [1, 2, 3]
  data := [1, 2, 3]
  compressionAlgo := 0
  chosen := by decide
  short := by decide

/-- The chunks of the transfer are all that was encrypted. -/
def aead : IdealAead MasterKey Nonce :=
  IdealAead.ofIssued (fun _ _ plaintext _ => plaintext ++ List.replicate 16 0)
    (fun _ _ _ _ _ same => List.append_cancel_right same)
    [⟨sampleKey 1, deriveChunkNonce blake3 transferId 0,
      forChunkTransfer transferId 0, [1, 2, 3]⟩]

def history : TransferHistory zstd where
  aead := aead
  past := [transfer]
  issuedChunk := by
    intro issue member id index small isAad
    rw [aead, IdealAead.ofIssued, List.mem_singleton] at member
    subst member
    obtain ⟨sameId, isFirst⟩ :=
      forChunkTransfer_inj (by decide) small isAad
    refine ⟨transfer, List.mem_singleton_self _, rfl, sameId, ?_, ?_⟩
    · rw [← isFirst]
      decide
    · rw [← isFirst]
      decide
  idsFresh := by
    intro first firstMember second secondMember _ _
    rw [List.mem_singleton.mp firstMember, List.mem_singleton.mp secondMember]

def header : Header := ⟨0, 3, transferId, 1, chunkSize, 3⟩

/-- What the encoder writes. -/
def sent : List UInt8 :=
  header.bytes ++ frames aead.encrypt blake3 (sampleKey 1) transferId [1, 2, 3]
    1 0

/-- No chunk is left, and the header says so. -/
def cutOff : List UInt8 :=
  { header with
    uncompressedLen := 0, totalChunks := 0, totalPlaintextLen := 0 }.bytes

end Sample

open Sample in
theorem sent_authentic :
    encodeTo aead.encrypt blake3 (sampleKey 1) transferId [1, 2, 3] 0 3 =
        .ok sent ∧
      ∃ header body, readHeader sent = .ok (header, body) ∧
        ∃ transfer ∈ history.past, transfer.transferId = header.transferId ∧
          BeginningOf history.aead.encrypt blake3 transfer header body
            [1, 2, 3] := by
  have encoded : encodeTo aead.encrypt blake3 (sampleKey 1) transferId
      [1, 2, 3] 0 3 = .ok sent := by
    decide +kernel
  have decoded : decodeFrom history.aead.decrypt blake3 zstd (sampleKey 1)
      sent = .ok [1, 2, 3] := by
    decide +kernel
  have isHeader : (readHeader sent).map (fun read => read.1.totalChunks) =
      .ok 1 := by
    decide +kernel
  obtain ⟨header, body, read, authentic⟩ :=
    decodeFrom_authentic history blake3 decoded
  refine ⟨encoded, header, body, read, ?_⟩
  rcases authentic with ⟨noChunks, _⟩ | ⟨transfer, member, _, sameId, begins, _⟩
  · rw [read] at isHeader
    cases isHeader.symm.trans (congrArg Except.ok noChunks)
  · exact ⟨transfer, member, sameId, begins⟩

open Sample in
/-- Without its chunk, and with a header to match, the transfer decodes to
nothing. -/
theorem cutOff_decodes :
    ¬ ∀ (zstd : Zstd) (history : TransferHistory zstd) (blake3 : Blake3)
      (masterKey : MasterKey) (bytes plaintext : List UInt8),
      decodeFrom history.aead.decrypt blake3 zstd masterKey bytes =
        .ok plaintext →
      ∃ header body, readHeader bytes = .ok (header, body) ∧
        ∃ transfer ∈ history.past, transfer.masterKey = masterKey ∧
          transfer.transferId = header.transferId ∧
          transfer.plaintext = plaintext := by
  intro authentic
  have decoded : decodeFrom history.aead.decrypt blake3 zstd (sampleKey 1)
      cutOff = .ok [] := by
    decide +kernel
  obtain ⟨header, body, _, other, member, _, _, isPlaintext⟩ :=
    authentic zstd history blake3 (sampleKey 1) cutOff [] decoded
  rw [List.mem_singleton.mp member] at isPlaintext
  cases isPlaintext

end OpenClipboard.ChunkedTransfer
