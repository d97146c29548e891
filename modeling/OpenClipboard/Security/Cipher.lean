import OpenClipboard.Core.ContentHash
import OpenClipboard.Library.Sealing

/-!
# Encryption at rest

Every store encrypts with XChaCha20-Poly1305 and differs in its envelope and
in the key: inline data as JSON and blob files with a binary header under the
master key, file-set paths and the consumable reference with a binary header
under subkeys of it.
-/

namespace OpenClipboard

open Text

abbrev MasterKey := Digest

structure Nonce where
  bytes : List UInt8
  length_eq : bytes.length = 24
  deriving DecidableEq, Repr

/-- The third-party AEAD, `decrypt_xchacha_raw` and `encrypt_xchacha_raw`. -/
abbrev XChaCha20Poly1305 := Aead MasterKey Nonce

def Nonce.ofBytes (bytes : List UInt8) : Option Nonce :=
  if sized : bytes.length = 24 then some ⟨bytes, sized⟩ else none

@[simp]
theorem Nonce.ofBytes_bytes (nonce : Nonce) :
    Nonce.ofBytes nonce.bytes = some nonce := by
  rw [ofBytes, dif_pos nonce.length_eq]

/-! ## The JSON envelope of inline data -/

structure EncryptedBlob where
  version : String
  aead : String
  nonce : List UInt8
  ciphertext : List UInt8
  aadFingerprint : Option (List UInt8)
  deriving DecidableEq, Repr

/-- `serde_json` on `EncryptedBlob`. -/
structure EncryptedBlobJson where
  toVec : EncryptedBlob → List UInt8
  fromSlice : List UInt8 → Option EncryptedBlob
  fromSlice_toVec : ∀ blob, fromSlice (toVec blob) = some blob

/-- `encrypt_blob_xchacha` in the serialisation of `BlobCipherAdapter`; its
`decrypt` refuses any other version or algorithm. -/
def encryptedBlobEnvelope (json : EncryptedBlobJson) (blake3 : Blake3) :
    Envelope Nonce where
  wrap nonce aad ciphertext :=
    json.toVec {
      version := "V1"
      aead := "XChaCha20Poly1305"
      nonce := nonce.bytes
      ciphertext := ciphertext
      aadFingerprint := some ((blake3 aad).bytes.take 16) }
  unwrap bytes :=
    (json.fromSlice bytes).bind fun blob =>
      if blob.aead ≠ "XChaCha20Poly1305" ∨ blob.version ≠ "V1" then
        none
      else
        (Nonce.ofBytes blob.nonce).map fun nonce => (nonce, blob.ciphertext)
  unwrap_wrap nonce aad ciphertext := by
    simp [json.fromSlice_toVec]

/-! ## The binary envelopes -/

/-- Magic, format version and nonce before the ciphertext. -/
def headerEnvelope (magic : List UInt8) (formatVersion : UInt8) :
    Envelope Nonce where
  wrap nonce _ ciphertext :=
    magic ++ [formatVersion] ++ nonce.bytes ++ ciphertext
  unwrap bytes :=
    if bytes.length < magic.length + 1 + 24 then
      none
    else if bytes.take magic.length ≠ magic then
      none
    else if (bytes.drop magic.length).head? ≠ some formatVersion then
      none
    else
      (Nonce.ofBytes ((bytes.drop (magic.length + 1)).take 24)).map
        fun nonce => (nonce, bytes.drop (magic.length + 1 + 24))
  unwrap_wrap nonce _ ciphertext := by
    have sized := nonce.length_eq
    have long : ¬ (magic ++ [formatVersion] ++ nonce.bytes ++
        ciphertext).length < magic.length + 1 + 24 := by
      simp only [List.length_append, List.length_cons, List.length_nil, sized]
      omega
    have isMagic : (magic ++ [formatVersion] ++ nonce.bytes ++
        ciphertext).take magic.length = magic := by
      simp
    have afterMagic : (magic ++ [formatVersion] ++ nonce.bytes ++
        ciphertext).drop magic.length =
          formatVersion :: (nonce.bytes ++ ciphertext) := by
      simp
    have afterVersion : (magic ++ [formatVersion] ++ nonce.bytes ++
        ciphertext).drop (magic.length + 1) = nonce.bytes ++ ciphertext := by
      rw [← List.drop_drop, afterMagic]
      rfl
    have afterNonce : (magic ++ [formatVersion] ++ nonce.bytes ++
        ciphertext).drop (magic.length + 1 + 24) = ciphertext := by
      rw [← List.drop_drop, afterVersion, ← sized, List.drop_left]
    have isNonce : (nonce.bytes ++ ciphertext).take 24 = nonce.bytes := by
      rw [← sized, List.take_left]
    rw [if_neg long, if_neg (not_not.mpr isMagic), afterMagic, afterVersion,
      afterNonce, isNonce, if_neg (by simp), Nonce.ofBytes_bytes]
    rfl

def blobMagic : List UInt8 := [0x55, 0x43, 0x42, 0x4C]
def fileSetMagic : List UInt8 := [0x55, 0x43, 0x46, 0x53]
def consumableMagic : List UInt8 := asBytes "UCAR"

/-! ## The ciphers -/

section Ciphers

variable (aead : XChaCha20Poly1305) (json : EncryptedBlobJson)
variable (blake3 : Blake3)

/-- `BlobCipherAdapter`, and `DefaultKeyMigrationAdapter` with its own key. -/
def inlineCipher : Sealing MasterKey Nonce :=
  aead.sealing (encryptedBlobEnvelope json blake3)

/-- The file format of `EncryptedBlobStore`. -/
def blobFileCipher : Sealing MasterKey Nonce :=
  aead.sealing (headerEnvelope blobMagic 1)

/-- `EntryFileSetPathCipher`. -/
def fileSetPathCipher : Sealing MasterKey Nonce :=
  aead.sealing (headerEnvelope fileSetMagic 1)

/-- `ActiveClipboardRegisterCipher`. -/
def consumableCipher : Sealing MasterKey Nonce :=
  aead.sealing (headerEnvelope consumableMagic 1)

end Ciphers

/-! ## Associated data -/

namespace Aad

def forInline (eventId repId : String) : List UInt8 :=
  asBytes s!"uc:inline:v1|{eventId}|{repId}"

def forBlobV2 (blobId : String) : List UInt8 :=
  asBytes s!"uc:blob:v2|{blobId}"

def forFileSetLine (entryId : String) (lineIndex : Int) : List UInt8 :=
  asBytes s!"uc:file_set_line:v1|{entryId}|{lineIndex}"

def originalTextSuffix : List UInt8 := asBytes "|original-text"
def relativePathSuffix : List UInt8 := asBytes "|relative-path"
def rootNameSuffix : List UInt8 := asBytes "|root-name"

def column (entryId : String) (lineIndex : Int) (suffix : List UInt8) :
    List UInt8 :=
  forFileSetLine entryId lineIndex ++ suffix

def consumable : List UInt8 :=
  asBytes "uniclipboard-active-register-consumable/v1#aad"

end Aad

/-! ## A sample cipher -/

def sampleKey (byte : UInt8) : MasterKey :=
  ⟨List.replicate 32 byte, List.length_replicate⟩

def sampleNonce : Nonce :=
  ⟨List.replicate 24 0, List.length_replicate⟩

def transparentAead : XChaCha20Poly1305 :=
  Aead.transparent Digest.bytes fun left right same => by
    cases left
    cases right
    cases same
    rfl

def sampleCipher : Sealing MasterKey Nonce :=
  transparentAead.sealing (headerEnvelope [] 1)

theorem sampleCipher_ne_plaintext {key : MasterKey} {nonce : Nonce}
    {plaintext aad : List UInt8} :
    sampleCipher.encrypt key nonce plaintext aad ≠ plaintext := by
  intro same
  have sameLength := congrArg List.length same
  simp only [sampleCipher, Aead.sealing, headerEnvelope, transparentAead,
    Aead.transparent, List.length_append, List.length_cons,
    List.length_nil] at sameLength
  omega

end OpenClipboard
