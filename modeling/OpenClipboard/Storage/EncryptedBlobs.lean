import OpenClipboard.Storage.BlobFiles
import OpenClipboard.Storage.Encryption

/-!
# The encrypted blob store

A put compresses, encrypts and writes a file; a get reads, decrypts and
expands it.  The writer takes any length, the reader expands to at most
`maxDecompressedSize` bytes.
-/

namespace OpenClipboard.EncryptedBlobs

open Text

def maxDecompressedSize : Nat := 500 * 1024 * 1024

/-- `zstd::bulk`: a frame expands to what it was made from, and to nothing
longer than the capacity. -/
structure ZstdBulk where
  compress : List UInt8 → Except String (List UInt8)
  decompress : List UInt8 → Nat → Except String (List UInt8)
  lossless : ∀ data frame capacity, compress data = .ok frame →
    data.length ≤ capacity → decompress frame capacity = .ok data
  faithful : ∀ data frame capacity out, compress data = .ok frame →
    decompress frame capacity = .ok out → out = data
  bounded : ∀ frame capacity out, decompress frame capacity = .ok out →
    out.length ≤ capacity

/-- What a put returns: the path, and the size on the disk. -/
structure Stored where
  path : String
  onDiskSize : Option Nat
  deriving DecidableEq, Repr

def parseBlob (data : List UInt8) : Except String (Nonce × List UInt8) :=
  if data.length < 29 then
    .error s!"blob file truncated: {data.length} bytes < 29 header"
  else if data.take 4 ≠ blobMagic then
    .error "invalid blob magic bytes"
  else if (data.drop 4).head? ≠ some 1 then
    .error s!"unsupported blob format version: {(data.drop 4).headD 0}"
  else
    match Nonce.ofBytes ((data.drop 5).take 24) with
    | none => .error "nonce extraction failed"
    | some nonce => .ok (nonce, data.drop 29)

theorem toOption_parseBlob (data : List UInt8) :
    (parseBlob data).toOption = (headerEnvelope blobMagic 1).unwrap data := by
  have isUnwrap : (headerEnvelope blobMagic 1).unwrap data =
      if data.length < 29 then none
      else if data.take 4 ≠ blobMagic then none
      else if (data.drop 4).head? ≠ some 1 then none
      else (Nonce.ofBytes ((data.drop 5).take 24)).map
        fun nonce => (nonce, data.drop 29) := rfl
  rw [isUnwrap, parseBlob]
  by_cases short : data.length < 29
  · rw [if_pos short, if_pos short]
    rfl
  · rw [if_neg short, if_neg short]
    by_cases other : data.take 4 ≠ blobMagic
    · rw [if_pos other, if_pos other]
      rfl
    · rw [if_neg other, if_neg other]
      by_cases unsupported : (data.drop 4).head? ≠ some 1
      · rw [if_pos unsupported, if_pos unsupported]
        rfl
      · rw [if_neg unsupported, if_neg unsupported]
        cases Nonce.ofBytes ((data.drop 5).take 24) with
        | none => rfl
        | some nonce => rfl

section Store

variable (aead : XChaCha20Poly1305) (accepts : Nat → Bool) (zstd : ZstdBulk)
variable (session : Option MasterKey)

/-- The bytes that `put` hands to the inner store; `accepts` are the lengths
the AEAD encrypts. -/
def encode (nonce : Nonce) (blobId : String) (data : List UInt8) :
    Except String (List UInt8) :=
  match session with
  | none => .error "encryption session not ready - cannot encrypt blob"
  | some masterKey =>
      match zstd.compress data with
      | .error _ => .error "failed to compress blob data"
      | .ok compressed =>
          if accepts compressed.length then
            .ok ((blobFileCipher aead).encrypt masterKey nonce compressed
              (Aad.forBlobV2 blobId))
          else .error "failed to encrypt blob data"

def put (fault : Option WriteFault) (nonce : Nonce) (files : BlobFiles)
    (blobId : String) (data : List UInt8) :
    Except String Stored × BlobFiles :=
  match encode aead accepts zstd session nonce blobId data with
  | .error message => (.error message, files)
  | .ok binaryData =>
      match FilesystemBlobStore.put fault files blobId binaryData with
      | (.error message, written) => (.error message, written)
      | (.ok path, written) => (.ok ⟨path, some binaryData.length⟩, written)

/-- `BlobReaderPort::get` of `EncryptedBlobStore`. -/
def get (fault : Option String) (files : BlobFiles) (blobId : String) :
    Except String (List UInt8) :=
  match FilesystemBlobStore.get fault files blobId with
  | .error _ => .error "failed to read encrypted blob from storage"
  | .ok binaryData =>
      match parseBlob binaryData with
      | .error message => .error message
      | .ok (nonce, ciphertext) =>
          match session with
          | none => .error "encryption session not ready - cannot decrypt blob"
          | some masterKey =>
              match aead.decrypt masterKey nonce ciphertext
                  (Aad.forBlobV2 blobId) with
              | none =>
                  .error
                    "failed to decrypt blob - key mismatch or data corrupted"
              | some compressed =>
                  match zstd.decompress compressed maxDecompressedSize with
                  | .error _ =>
                      .error ("failed to decompress blob data" ++
                        " - data may be corrupted")
                  | .ok plaintext => .ok plaintext

end Store

variable {aead : XChaCha20Poly1305} {accepts : Nat → Bool} {zstd : ZstdBulk}
variable {nonce : Nonce} {blobId : String} {data : List UInt8}

theorem put_eq_ok {session : Option MasterKey} {fault : Option WriteFault}
    {files after : BlobFiles} {stored : Stored}
    (isPut : put aead accepts zstd session fault nonce files blobId data =
      (.ok stored, after)) :
    ∃ masterKey compressed, session = some masterKey ∧
      zstd.compress data = .ok compressed ∧
      after.find blobId = some ((blobFileCipher aead).encrypt masterKey nonce
        compressed (Aad.forBlobV2 blobId)) := by
  unfold put at isPut
  cases isEncoded : encode aead accepts zstd session nonce blobId data with
  | error message =>
      rw [isEncoded] at isPut
      cases isPut
  | ok binaryData =>
      rw [isEncoded] at isPut
      dsimp only at isPut
      have written : after.find blobId = some binaryData := by
        cases fault with
        | none =>
            simp only [FilesystemBlobStore.put, Prod.mk.injEq] at isPut
            rw [← isPut.2, Table.find_put_self]
        | some failed =>
            simp only [FilesystemBlobStore.put, Prod.mk.injEq] at isPut
            cases isPut.1
      cases session with
      | none => cases isEncoded
      | some masterKey =>
          cases isCompressed : zstd.compress data with
          | error message =>
              simp only [encode, isCompressed] at isEncoded
              cases isEncoded
          | ok compressed =>
              simp only [encode, isCompressed] at isEncoded
              by_cases accepted : accepts compressed.length = true
              · rw [if_pos accepted, Except.ok.injEq] at isEncoded
                exact ⟨masterKey, compressed, rfl, rfl, by
                  rw [written, isEncoded]⟩
              · rw [if_neg accepted] at isEncoded
                cases isEncoded

theorem get_of_sealed {masterKey : MasterKey} {files : BlobFiles}
    {compressed : List UInt8}
    (stored : files.find blobId = some ((blobFileCipher aead).encrypt masterKey
      nonce compressed (Aad.forBlobV2 blobId))) :
    get aead zstd (some masterKey) none files blobId =
      match zstd.decompress compressed maxDecompressedSize with
      | .error _ =>
          .error ("failed to decompress blob data" ++
            " - data may be corrupted")
      | .ok plaintext => .ok plaintext := by
  have unwrapped : (headerEnvelope blobMagic 1).unwrap
      ((blobFileCipher aead).encrypt masterKey nonce compressed
        (Aad.forBlobV2 blobId)) =
      some (nonce, aead.encrypt masterKey nonce compressed
        (Aad.forBlobV2 blobId)) :=
    (headerEnvelope blobMagic 1).unwrap_wrap nonce (Aad.forBlobV2 blobId) _
  have opened : parseBlob ((blobFileCipher aead).encrypt masterKey nonce
      compressed (Aad.forBlobV2 blobId)) =
      .ok (nonce, aead.encrypt masterKey nonce compressed
        (Aad.forBlobV2 blobId)) := by
    rw [← toOption_parseBlob] at unwrapped
    exact PartialMap.toOption_eq_some_iff.mp unwrapped
  unfold get FilesystemBlobStore.get
  rw [stored]
  dsimp only
  rw [opened]
  dsimp only
  rw [aead.decrypt_encrypt]

/-- The get is the one of the codec that the migration of a space reads blob
files with. -/
theorem toOption_get {session : Option MasterKey} {files : BlobFiles}
    {codec : BlobFileCodec} (isSealing : codec.sealing = blobFileCipher aead)
    (isExpansion : ∀ frame, codec.decompress frame =
      (zstd.decompress frame maxDecompressedSize).toOption) :
    (get aead zstd session none files blobId).toOption =
      (files.find blobId).bind (codec.get session blobId) := by
  unfold get FilesystemBlobStore.get BlobFileCodec.get
  rw [isSealing]
  cases files.find blobId with
  | none => rfl
  | some binaryData =>
      dsimp only [Option.bind_some]
      cases session with
      | none =>
          cases parseBlob binaryData with
          | error message => rfl
          | ok opened => rfl
      | some masterKey =>
          have isDecrypt : (blobFileCipher aead).decrypt masterKey binaryData
              (Aad.forBlobV2 blobId) =
              ((headerEnvelope blobMagic 1).unwrap binaryData).bind
                fun opened => aead.decrypt masterKey opened.1 opened.2
                  (Aad.forBlobV2 blobId) := rfl
          rw [Option.bind_some, isDecrypt, ← toOption_parseBlob]
          cases parseBlob binaryData with
          | error message => rfl
          | ok opened =>
              dsimp only [Except.toOption, Option.bind_some]
              cases aead.decrypt masterKey opened.1 opened.2
                  (Aad.forBlobV2 blobId) with
              | none => rfl
              | some compressed =>
                  dsimp only [Option.bind_some]
                  rw [isExpansion]
                  cases zstd.decompress compressed maxDecompressedSize with
                  | error message => rfl
                  | ok plaintext => rfl

/-- What was put comes back under the same key exactly when the reader has
room for it, however long ago it was written. -/
theorem blobRoundTrip_iff {masterKey : MasterKey} {fault : Option WriteFault}
    {files after later : BlobFiles} {stored : Stored}
    (isPut : put aead accepts zstd (some masterKey) fault nonce files blobId
      data = (.ok stored, after))
    (kept : later.find blobId = after.find blobId) :
    get aead zstd (some masterKey) none later blobId = .ok data ↔
      data.length ≤ maxDecompressedSize := by
  rcases put_eq_ok isPut with ⟨sameKey, compressed, isKey, isFrame, isFile⟩
  cases isKey
  rw [get_of_sealed (kept.trans isFile)]
  constructor
  · intro isGet
    cases isExpanded : zstd.decompress compressed maxDecompressedSize with
    | error message =>
        rw [isExpanded] at isGet
        cases isGet
    | ok plaintext =>
        have same := zstd.faithful data compressed _ plaintext isFrame
          isExpanded
        rw [← same]
        exact zstd.bounded compressed _ plaintext isExpanded
  · intro fits
    rw [zstd.lossless data compressed _ isFrame fits]

namespace Sample

def zstdMagic : List UInt8 := [0x28, 0xB5, 0x2F, 0xFD]

def rawFrames : ZstdBulk where
  compress data := .ok (zstdMagic ++ data)
  decompress frame capacity :=
    if frame.take 4 ≠ zstdMagic then .error "Unknown frame descriptor"
    else if capacity < (frame.drop 4).length then
      .error "Destination buffer is too small"
    else .ok (frame.drop 4)
  lossless data frame capacity isFrame fits := by
    cases isFrame
    have isMagic : (zstdMagic ++ data).take 4 = zstdMagic := rfl
    have isData : (zstdMagic ++ data).drop 4 = data := rfl
    rw [isMagic, isData, if_neg (fun differs => differs rfl),
      if_neg (Nat.not_lt.mpr fits)]
  faithful data frame capacity out isFrame isOut := by
    cases isFrame
    have isMagic : (zstdMagic ++ data).take 4 = zstdMagic := rfl
    have isData : (zstdMagic ++ data).drop 4 = data := rfl
    rw [isMagic, isData, if_neg (fun differs => differs rfl)] at isOut
    by_cases short : capacity < data.length
    · rw [if_pos short] at isOut
      cases isOut
    · rw [if_neg short] at isOut
      cases isOut
      rfl
  bounded frame capacity out isOut := by
    by_cases unknown : frame.take 4 ≠ zstdMagic
    · rw [if_pos unknown] at isOut
      cases isOut
    · rw [if_neg unknown] at isOut
      by_cases short : capacity < (frame.drop 4).length
      · rw [if_pos short] at isOut
        cases isOut
      · rw [if_neg short] at isOut
        cases isOut
        exact Nat.not_lt.mp short

def put (data : List UInt8) : Except String Stored × BlobFiles :=
  EncryptedBlobs.put transparentAead (fun _ => true) rawFrames
    (some (sampleKey 7)) none sampleNonce ∅ "blob-1" data

theorem put_succeeds (data : List UInt8) :
    ∃ stored after, put data = (.ok stored, after) :=
  ⟨_, _, rfl⟩

end Sample

theorem blobRoundTrip_threeBytes :
    ∃ stored after, Sample.put [1, 2, 3] = (.ok stored, after) ∧
      get transparentAead Sample.rawFrames (some (sampleKey 7)) none after
        "blob-1" = .ok [1, 2, 3] := by
  rcases Sample.put_succeeds [1, 2, 3] with ⟨stored, after, isPut⟩
  exact ⟨stored, after, isPut, (blobRoundTrip_iff isPut rfl).mpr (by decide)⟩

/-- One byte more than the reader expands to is written and cannot be read. -/
theorem oversizedBlob_isLost :
    ¬ ∀ (aead : XChaCha20Poly1305) (accepts : Nat → Bool) (zstd : ZstdBulk)
      (masterKey : MasterKey) (nonce : Nonce) (files after : BlobFiles)
      (blobId : String) (data : List UInt8) (stored : Stored),
      put aead accepts zstd (some masterKey) none nonce files blobId data =
        (.ok stored, after) →
      get aead zstd (some masterKey) none after blobId = .ok data := by
  intro always
  rcases Sample.put_succeeds
    (List.replicate (maxDecompressedSize + 1) 0) with ⟨stored, after, isPut⟩
  have isGet := always _ _ _ _ _ _ _ _ _ _ isPut
  have fits := (blobRoundTrip_iff isPut rfl).mp isGet
  rw [List.length_replicate] at fits
  omega

end OpenClipboard.EncryptedBlobs
