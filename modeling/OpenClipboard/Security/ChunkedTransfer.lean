import OpenClipboard.Library.IdealAead
import OpenClipboard.Library.LittleEndian
import OpenClipboard.Security.Cipher

/-!
# Chunked transfers on the wire

A transfer is a cleartext header of 37 bytes and a run of chunks, each
encrypted under the transfer id and its index.  The header tells the decoder
how many chunks to read, how long the result is and whether it is compressed;
no ciphertext depends on it.
-/

namespace OpenClipboard.ChunkedTransfer

open Text

def chunkSize : Nat := 262144

def v3Magic : List UInt8 := [0x55, 0x43, 0x33, 0x00]

def v3HeaderSize : Nat := 37

def compressionThreshold : Nat := 8192

def maxDecompressedSize : Nat := 134217728

def tagSize : Nat := 16

inductive ChunkedTransferError where
  | invalidMagic
  | truncatedHeader
  | truncatedChunk
  | decryptFailed (chunkIndex : Nat)
  | invalidCiphertextLen (chunkIndex ciphertextLen : Nat)
  | invalidHeader (reason : String)
  | encryptFailed (reason : String)
  | compressionFailed (reason : String)
  | decompressionFailed (reason : String)
  | invalidCompressionAlgo (algo : UInt8)
  deriving DecidableEq, Repr

/-- The raw bytes of a version 4 UUID. -/
@[ext]
structure TransferId where
  bytes : List UInt8
  length_eq : bytes.length = 16
  deriving Repr

instance TransferId.decideEq : DecidableEq TransferId := fun left right =>
  decidable_of_iff (left.bytes = right.bytes) TransferId.ext_iff.symm

/-- The codec: a frame expands to what it was made from, if there is room. -/
structure Zstd where
  compress : List UInt8 → Except String (List UInt8)
  decompress : List UInt8 → Nat → Except String (List UInt8)
  lossless : ∀ data frame capacity, compress data = .ok frame →
    data.length ≤ capacity → decompress frame capacity = .ok data
  faithful : ∀ data frame capacity out, compress data = .ok frame →
    decompress frame capacity = .ok out → out = data

def forChunkTransfer (transferId : TransferId) (chunkIndex : Nat) :
    List UInt8 :=
  transferId.bytes ++ LittleEndian.encode 4 chunkIndex

def deriveChunkNonce (blake3 : Blake3) (transferId : TransferId)
    (chunkIndex : Nat) : Nonce where
  bytes := (blake3 (asBytes "uc:chunk-nonce:v1|" ++ transferId.bytes ++
    LittleEndian.encode 4 chunkIndex)).bytes.take 24
  length_eq := by
    rw [List.length_take, Digest.length_eq]
    rfl

/-! ## The header -/

structure Header where
  compressionAlgo : UInt8
  uncompressedLen : Nat
  transferId : TransferId
  totalChunks : Nat
  chunkSizeHint : Nat
  totalPlaintextLen : Nat
  deriving DecidableEq, Repr

def Header.bytes (header : Header) : List UInt8 :=
  v3Magic ++ [header.compressionAlgo] ++
    LittleEndian.encode 4 header.uncompressedLen ++ header.transferId.bytes ++
    LittleEndian.encode 4 header.totalChunks ++
    LittleEndian.encode 4 header.chunkSizeHint ++
    LittleEndian.encode 4 header.totalPlaintextLen

/-- The `width` bytes at `offset`, as a number. -/
def fieldAt (bytes : List UInt8) (offset width : Nat) : Nat :=
  LittleEndian.decode ((bytes.drop offset).take width)

def readHeader (bytes : List UInt8) :
    Except ChunkedTransferError (Header × List UInt8) :=
  if long : v3HeaderSize ≤ bytes.length then
    if bytes.take 4 ≠ v3Magic then
      .error .invalidMagic
    else
      .ok ({
        compressionAlgo := UInt8.ofNat (fieldAt bytes 4 1)
        uncompressedLen := fieldAt bytes 5 4
        transferId := ⟨(bytes.drop 9).take 16, by
          rw [List.length_take, List.length_drop]
          unfold v3HeaderSize at long
          omega⟩
        totalChunks := fieldAt bytes 25 4
        chunkSizeHint := fieldAt bytes 29 4
        totalPlaintextLen := fieldAt bytes 33 4 }, bytes.drop v3HeaderSize)
  else
    .error .truncatedHeader

/-- What the decoder asks of the header before it reads a chunk.  On 64 bits the
product does not overflow. -/
def checkHeader (header : Header) : Except ChunkedTransferError Unit :=
  let maxCapacity := header.totalChunks * chunkSize
  if 0 < header.totalChunks ∧ header.totalPlaintextLen = 0 then
    .error (.invalidHeader "total_chunks > 0 but total_plaintext_len is 0")
  else if maxCapacity < header.totalPlaintextLen then
    .error (.invalidHeader ("total_plaintext_len " ++
      s!"{header.totalPlaintextLen}" ++
      s!" exceeds maximum capacity {maxCapacity} (total_chunks " ++
      s!"{header.totalChunks} * CHUNK_SIZE {chunkSize})"))
  else if maxDecompressedSize < header.totalPlaintextLen then
    .error (.invalidHeader ("total_plaintext_len " ++
      s!"{header.totalPlaintextLen}" ++
      s!" exceeds MAX_DECOMPRESSED_SIZE {maxDecompressedSize}"))
  else if header.compressionAlgo = 0 ∧
      header.uncompressedLen ≠ header.totalPlaintextLen then
    .error (.invalidHeader ("compression_algo=0 but uncompressed_len " ++
      s!"{header.uncompressedLen} != total_plaintext_len " ++
      s!"{header.totalPlaintextLen}"))
  else if header.compressionAlgo = 1 ∧
      maxDecompressedSize < header.uncompressedLen then
    .error (.invalidHeader (s!"uncompressed_len {header.uncompressedLen}" ++
      s!" exceeds MAX_DECOMPRESSED_SIZE {maxDecompressedSize}"))
  else
    .ok ()

/-! ## Encoding -/

/-- `plaintext.chunks(CHUNK_SIZE)`, the chunk at an index. -/
def chunkAt (plaintext : List UInt8) (index : Nat) : List UInt8 :=
  (plaintext.drop (index * chunkSize)).take chunkSize

def chunkCount (plaintext : List UInt8) : Nat :=
  (plaintext.length + chunkSize - 1) / chunkSize

section Encode

variable (encrypt : MasterKey → Nonce → List UInt8 → List UInt8 → List UInt8)
variable (blake3 : Blake3) (masterKey : MasterKey) (transferId : TransferId)

def sealChunk (plaintext : List UInt8) (index : Nat) : List UInt8 :=
  encrypt masterKey (deriveChunkNonce blake3 transferId index)
    (chunkAt plaintext index) (forChunkTransfer transferId index)

/-- A ciphertext behind its length. -/
def frame (ciphertext : List UInt8) : List UInt8 :=
  LittleEndian.encode 4 ciphertext.length ++ ciphertext

/-- The frames of `count` chunks from `index` on. -/
def frames (plaintext : List UInt8) : Nat → Nat → List UInt8
  | 0, _ => []
  | count + 1, index =>
      frame (sealChunk encrypt blake3 masterKey transferId plaintext index) ++
        frames plaintext count (index + 1)

def encodeTo (plaintext : List UInt8) (compressionAlgo : UInt8)
    (uncompressedLen : Nat) : Except ChunkedTransferError (List UInt8) :=
  if 4294967295 < plaintext.length then
    .error (.encryptFailed
      s!"plaintext length {plaintext.length} exceeds u32::MAX")
  else
    let header : Header := {
      compressionAlgo := compressionAlgo
      uncompressedLen := uncompressedLen
      transferId := transferId
      totalChunks := chunkCount plaintext
      chunkSizeHint := chunkSize
      totalPlaintextLen := plaintext.length }
    .ok (header.bytes ++ frames encrypt blake3 masterKey transferId plaintext
      (chunkCount plaintext) 0)

end Encode

/-- What `TransferCipherAdapter::encrypt` hands to the encoder: large payloads
are compressed where that makes them smaller. -/
def chooseEncoding (zstd : Zstd) (plaintext : List UInt8) :
    Except String (List UInt8 × UInt8) :=
  if compressionThreshold < plaintext.length then
    match zstd.compress plaintext with
    | .error message => .error ("compression failed: " ++ message)
    | .ok compressed =>
        if compressed.length < plaintext.length then
          .ok (compressed, 1)
        else
          .ok (plaintext, 0)
  else
    .ok (plaintext, 0)

/-! ## Decoding -/

section Decode

variable (decrypt : MasterKey → Nonce → List UInt8 → List UInt8 →
  Option (List UInt8))
variable (blake3 : Blake3) (masterKey : MasterKey) (transferId : TransferId)

/-- The chunk loop: `count` more chunks, the next one at `index`. -/
def readChunks : Nat → Nat → List UInt8 →
    Except ChunkedTransferError (List UInt8)
  | 0, _, _ => .ok []
  | count + 1, index, bytes =>
      let ciphertextLen := fieldAt bytes 0 4
      let rest := bytes.drop 4
      if bytes.length < 4 then
        .error .truncatedChunk
      else if ciphertextLen < tagSize ∨ chunkSize + tagSize < ciphertextLen then
        .error (.invalidCiphertextLen index ciphertextLen)
      else if rest.length < ciphertextLen then
        .error .truncatedChunk
      else
        match decrypt masterKey (deriveChunkNonce blake3 transferId index)
            (rest.take ciphertextLen) (forChunkTransfer transferId index) with
        | none => .error (.decryptFailed index)
        | some chunk =>
            (readChunks count (index + 1) (rest.drop ciphertextLen)).map
              (chunk ++ ·)

/-- The step after decryption. -/
def unpack (zstd : Zstd) (header : Header) (decrypted : List UInt8) :
    Except ChunkedTransferError (List UInt8) :=
  if header.compressionAlgo = 0 then
    .ok decrypted
  else if header.compressionAlgo = 1 then
    match zstd.decompress decrypted header.uncompressedLen with
    | .error reason => .error (.decompressionFailed reason)
    | .ok plaintext => .ok plaintext
  else
    .error (.invalidCompressionAlgo header.compressionAlgo)

end Decode

section Decoder

variable (decrypt : MasterKey → Nonce → List UInt8 → List UInt8 →
  Option (List UInt8))
variable (blake3 : Blake3) (zstd : Zstd) (masterKey : MasterKey)

/-- The decoder behind a header that has been checked. -/
def decodeBody (header : Header) (body : List UInt8) :
    Except ChunkedTransferError (List UInt8) :=
  match readChunks decrypt blake3 masterKey header.transferId
      header.totalChunks 0 body with
  | .error err => .error err
  | .ok decrypted =>
      if decrypted.length ≠ header.totalPlaintextLen then
        .error (.invalidHeader (s!"decoded {decrypted.length} bytes but " ++
          s!"header declared {header.totalPlaintextLen}"))
      else
        unpack zstd header decrypted

def decodeFrom (bytes : List UInt8) :
    Except ChunkedTransferError (List UInt8) :=
  match readHeader bytes with
  | .error err => .error err
  | .ok (header, body) =>
      match checkHeader header with
      | .error err => .error err
      | .ok () => decodeBody decrypt blake3 zstd masterKey header body

end Decoder

end OpenClipboard.ChunkedTransfer
