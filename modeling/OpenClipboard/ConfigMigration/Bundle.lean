import OpenClipboard.Library.LittleEndian
import OpenClipboard.Pairing.KeyMaterial

/-!
# The bundle file

A plaintext header, which is authenticated, and the sealed archive.  The key
is the KEK; the header has what derives it from the passphrase.
-/

namespace OpenClipboard.ConfigMigration

open Pairing

/-- `b"UCBUNDLE"`. -/
def magic : List UInt8 := [0x55, 0x43, 0x42, 0x55, 0x4E, 0x44, 0x4C, 0x45]

def formatVer : Nat := 1
def kdfAlgoArgon2id : UInt8 := 1
def headerLen : Nat := 8 + 2 + 1 + 4 + 4 + 4 + 16 + 24
def maxSealedLen : Nat := 2 * 1024 * 1024 * 1024
def maxKdfMemKib : Nat := 1024 * 1024
def maxKdfIters : Nat := 1024
def maxKdfParallelism : Nat := 256

abbrev Argon2Params := KdfParamsV1

structure Salt where
  bytes : List UInt8
  length_eq : bytes.length = 16
  deriving DecidableEq, Repr

def Salt.ofBytes (bytes : List UInt8) : Option Salt :=
  if sized : bytes.length = 16 then some ⟨bytes, sized⟩ else none

@[simp]
theorem Salt.ofBytes_bytes (salt : Salt) :
    Salt.ofBytes salt.bytes = some salt := by
  rw [ofBytes, dif_pos salt.length_eq]

theorem Salt.ofBytes_eq_some {bytes : List UInt8} {salt : Salt}
    (isSalt : Salt.ofBytes bytes = some salt) : salt.bytes = bytes := by
  unfold ofBytes at isSalt
  split at isSalt
  · cases isSalt
    rfl
  · cases isSalt

structure BundleHeader where
  formatVer : Nat
  kdf : Argon2Params
  salt : Salt
  nonce : Nonce
  deriving DecidableEq, Repr

inductive BundleError where
  | invalidOrCorrupt
  | incompatible (reason : String)
  | crypto
  deriving DecidableEq, Repr

def encodeHeader (header : BundleHeader) : List UInt8 :=
  magic ++ LittleEndian.encode 2 header.formatVer ++ [kdfAlgoArgon2id] ++
    LittleEndian.encode 4 header.kdf.memKib.toNat ++
    LittleEndian.encode 4 header.kdf.iters.toNat ++
    LittleEndian.encode 4 header.kdf.parallelism.toNat ++
    header.salt.bytes ++ header.nonce.bytes

/-- What the reader admits before it derives a key. -/
def Argon2Params.inRange (kdf : Argon2Params) : Bool :=
  8 ≤ kdf.memKib.toNat && kdf.memKib.toNat ≤ maxKdfMemKib &&
    (1 ≤ kdf.iters.toNat && kdf.iters.toNat ≤ maxKdfIters) &&
    (1 ≤ kdf.parallelism.toNat && kdf.parallelism.toNat ≤ maxKdfParallelism)

def newerFormat (version : Nat) : BundleError :=
  .incompatible ("bundle format version " ++ toString version ++
    " is newer than supported " ++ toString formatVer)

def unsupportedKdf (tag : UInt8) : BundleError :=
  .incompatible ("unsupported key-derivation algorithm tag " ++
    toString tag.toNat)

def kdfOutOfRange (kdf : Argon2Params) : BundleError :=
  .incompatible ("key-derivation parameters out of range (mem_kib=" ++
    toString kdf.memKib.toNat ++ ", iters=" ++ toString kdf.iters.toNat ++
    ", parallelism=" ++ toString kdf.parallelism.toNat ++ ")")

def oversizePayload : BundleError :=
  .incompatible ("sealed payload exceeds the " ++ toString maxSealedLen ++
    "-byte ceiling")

/-- The bytes from an offset on, as many as given. -/
def slice (bytes : List UInt8) (offset count : Nat) : List UInt8 :=
  (bytes.drop offset).take count

def readU32 (bytes : List UInt8) (offset : Nat) : UInt32 :=
  UInt32.ofNat (LittleEndian.decode (slice bytes offset 4))

/-- The header; the ciphertext begins at `headerLen`. -/
def parseHeader (bytes : List UInt8) : Except BundleError BundleHeader :=
  if bytes.length < headerLen then
    .error .invalidOrCorrupt
  else if slice bytes 0 8 ≠ magic then
    .error .invalidOrCorrupt
  else
    let version := LittleEndian.decode (slice bytes 8 2)
    let kdfAlgo := bytes.getD 10 0
    let kdf : Argon2Params :=
      ⟨readU32 bytes 11, readU32 bytes 15, readU32 bytes 19⟩
    if formatVer < version then
      .error (newerFormat version)
    else if kdfAlgo ≠ kdfAlgoArgon2id then
      .error (unsupportedKdf kdfAlgo)
    else if kdf.inRange = false then
      .error (kdfOutOfRange kdf)
    else
      match Salt.ofBytes (slice bytes 23 16), Nonce.ofBytes (slice bytes 39 24)
      with
      | some salt, some nonce => .ok ⟨version, kdf, salt, nonce⟩
      | _, _ => .error .invalidOrCorrupt

section Codec

variable (crypto : KeyCrypto)

def deriveKey (password : List UInt8) (salt : Salt) (kdf : Argon2Params) :
    Except BundleError MasterKey :=
  match crypto.hashPasswordInto kdf password salt.bytes with
  | .ok key => .ok key
  | .error _ => .error .crypto

/-- Header and ciphertext, under a fresh nonce. -/
def sealWithKey (key : MasterKey) (salt : Salt) (kdf : Argon2Params)
    (nonce : Nonce) (archive : List UInt8) : List UInt8 :=
  let header := encodeHeader ⟨formatVer, kdf, salt, nonce⟩
  header ++ crypto.aead.encrypt key nonce archive header

def openBundle (password bytes : List UInt8) :
    Except BundleError (List UInt8) := do
  let header ← parseHeader bytes
  let sealed := bytes.drop headerLen
  if maxSealedLen < sealed.length then
    .error oversizePayload
  else
    let key ← deriveKey crypto password header.salt header.kdf
    match crypto.aead.decrypt key header.nonce sealed (encodeHeader header) with
    | some archive => .ok archive
    | none => .error .invalidOrCorrupt

end Codec

/-! ## The header reads back -/

theorem encodeHeader_length (header : BundleHeader) :
    (encodeHeader header).length = headerLen := by
  simp [encodeHeader, magic, headerLen, header.salt.length_eq,
    header.nonce.length_eq]

theorem slice_append {front field rest : List UInt8} {offset count : Nat}
    (isOffset : front.length = offset) (isCount : field.length = count) :
    slice (front ++ (field ++ rest)) offset count = field := by
  unfold slice
  rw [← isOffset, List.drop_left, ← isCount, List.take_left]

theorem u32_small (value : UInt32) : value.toNat < 256 ^ 4 := by
  have small := value.toNat_lt
  norm_num at small ⊢
  exact small

theorem readU32_of_slice {bytes : List UInt8} {offset : Nat} {value : UInt32}
    (isSlice : slice bytes offset 4 = LittleEndian.encode 4 value.toNat) :
    readU32 bytes offset = value := by
  unfold readU32
  rw [isSlice, LittleEndian.decode_encode (u32_small value),
    UInt32.ofNat_toNat]

section Header

variable {header : BundleHeader} {rest : List UInt8}

/-- What stands between the algorithm tag and the salt. -/
def kdfBytes (kdf : Argon2Params) : List UInt8 :=
  LittleEndian.encode 4 kdf.memKib.toNat ++
    (LittleEndian.encode 4 kdf.iters.toNat ++
      LittleEndian.encode 4 kdf.parallelism.toNat)

theorem readKdf {front tail : List UInt8} (isFront : front.length = 11)
    (kdf : Argon2Params) :
    (⟨readU32 (front ++ (kdfBytes kdf ++ tail)) 11,
      readU32 (front ++ (kdfBytes kdf ++ tail)) 15,
      readU32 (front ++ (kdfBytes kdf ++ tail)) 19⟩ : Argon2Params) = kdf := by
  obtain ⟨memKib, iters, parallelism⟩ := kdf
  have isMemKib : readU32 (front ++ (kdfBytes ⟨memKib, iters, parallelism⟩ ++
      tail)) 11 = memKib := by
    apply readU32_of_slice
    simp only [kdfBytes, List.append_assoc]
    exact slice_append isFront (LittleEndian.encode_length 4 _)
  have isIters : readU32 (front ++ (kdfBytes ⟨memKib, iters, parallelism⟩ ++
      tail)) 15 = iters := by
    apply readU32_of_slice
    simp only [kdfBytes, List.append_assoc]
    rw [← List.append_assoc front]
    exact slice_append (by simp [isFront]) (LittleEndian.encode_length 4 _)
  have isParallelism : readU32 (front ++ (kdfBytes
      ⟨memKib, iters, parallelism⟩ ++ tail)) 19 = parallelism := by
    apply readU32_of_slice
    simp only [kdfBytes, List.append_assoc]
    rw [← List.append_assoc front, ← List.append_assoc (front ++ _)]
    exact slice_append (by simp [isFront]) (LittleEndian.encode_length 4 _)
  rw [isMemKib, isIters, isParallelism]

theorem encodeHeader_eq : encodeHeader header ++ rest =
    (magic ++ LittleEndian.encode 2 header.formatVer ++ [kdfAlgoArgon2id]) ++
      (kdfBytes header.kdf ++ (header.salt.bytes ++
        (header.nonce.bytes ++ rest))) := by
  simp only [encodeHeader, kdfBytes, List.append_assoc]

theorem parseHeader_encodeHeader (isVersion : header.formatVer = formatVer) :
    parseHeader (encodeHeader header ++ rest) =
      if header.kdf.inRange = true then .ok header
      else .error (kdfOutOfRange header.kdf) := by
  obtain ⟨version, kdf, salt, nonce⟩ := header
  cases isVersion
  let bytes := encodeHeader ⟨formatVer, kdf, salt, nonce⟩ ++ rest
  have isLong : ¬ bytes.length < headerLen := by
    simp [bytes, encodeHeader_length]
  have isMagic : slice bytes 0 8 = magic := rfl
  have isVersion : LittleEndian.decode (slice bytes 8 2) = formatVer := by
    have isSlice : slice bytes 8 2 = LittleEndian.encode 2 formatVer := by
      simp only [bytes, encodeHeader, List.append_assoc]
      exact slice_append rfl rfl
    rw [isSlice]
    exact LittleEndian.decode_encode (by decide)
  have isAlgo : bytes.getD 10 0 = kdfAlgoArgon2id := rfl
  have isKdf : (⟨readU32 bytes 11, readU32 bytes 15, readU32 bytes 19⟩ :
      Argon2Params) = kdf := by
    simp only [bytes, encodeHeader_eq]
    exact readKdf rfl kdf
  have isSalt : slice bytes 23 16 = salt.bytes := by
    simp only [bytes, encodeHeader_eq]
    rw [← List.append_assoc]
    exact slice_append rfl salt.length_eq
  have isNonce : slice bytes 39 24 = nonce.bytes := by
    simp only [bytes, encodeHeader_eq]
    rw [← List.append_assoc, ← List.append_assoc]
    apply slice_append _ nonce.length_eq
    rw [List.length_append, salt.length_eq]
    rfl
  show parseHeader bytes = _
  unfold parseHeader
  rw [if_neg isLong, if_neg (not_not.mpr isMagic)]
  simp only [isVersion, isAlgo, isKdf, isSalt, isNonce, Salt.ofBytes_bytes,
    Nonce.ofBytes_bytes, Nat.lt_irrefl, if_false, ne_eq, not_true_eq_false]
  cases kdf.inRange <;> rfl

end Header

/-! ## Opening what was sealed -/

section Opening

variable {crypto : KeyCrypto} {derived : MasterKey} {salt : Salt}
variable {kdf : Argon2Params} {password : List UInt8}

/-- Why a bundle does not open: parameters the reader does not admit, a payload
over the ceiling, or another key. -/
theorem openBundle_sealWithKey (key : MasterKey) (nonce : Nonce)
    (archive : List UInt8)
    (derives : deriveKey crypto password salt kdf = .ok derived) :
    openBundle crypto password (sealWithKey crypto key salt kdf nonce archive) =
      if kdf.inRange = false then .error (kdfOutOfRange kdf)
      else if headerLen + maxSealedLen <
          (sealWithKey crypto key salt kdf nonce archive).length then
        .error oversizePayload
      else if derived = key then .ok archive
      else .error .invalidOrCorrupt := by
  let header : BundleHeader := ⟨formatVer, kdf, salt, nonce⟩
  let ciphertext :=
    crypto.aead.encrypt key nonce archive (encodeHeader header)
  have isParsed : parseHeader (encodeHeader header ++ ciphertext) =
      if kdf.inRange = true then .ok header
      else .error (kdfOutOfRange kdf) :=
    parseHeader_encodeHeader rfl
  have isSealed : (encodeHeader header ++ ciphertext).drop headerLen =
      ciphertext := by
    rw [← encodeHeader_length header, List.drop_left]
  have over_iff : headerLen + maxSealedLen <
      (encodeHeader header ++ ciphertext).length ↔
        maxSealedLen < ciphertext.length := by
    rw [List.length_append, encodeHeader_length]
    omega
  show openBundle crypto password (encodeHeader header ++ ciphertext) =
    if kdf.inRange = false then .error (kdfOutOfRange kdf)
    else if headerLen + maxSealedLen <
        (encodeHeader header ++ ciphertext).length then .error oversizePayload
    else if derived = key then .ok archive
    else .error .invalidOrCorrupt
  unfold openBundle
  simp only [isParsed, isSealed, over_iff]
  cases inRange : kdf.inRange with
  | false => rfl
  | true =>
      by_cases oversize : maxSealedLen < ciphertext.length
      · simp [oversize, bind, Except.bind]
      · have isDerived : deriveKey crypto password header.salt header.kdf =
            .ok derived := derives
        by_cases sameKey : derived = key
        · subst sameKey
          have opened : crypto.aead.decrypt derived nonce ciphertext
              (encodeHeader header) = some archive :=
            crypto.aead.decrypt_encrypt derived nonce archive _
          simp [oversize, bind, Except.bind, isDerived, header, opened]
        · have refused : crypto.aead.decrypt derived nonce ciphertext
              (encodeHeader header) = none := by
            cases opened : crypto.aead.decrypt derived nonce ciphertext
                (encodeHeader header) with
            | none => rfl
            | some other =>
                have same := (crypto.aead.authentic _ _ _ _ _ _ _ _ opened).1
                exact absurd same sameKey
          simp [oversize, bind, Except.bind, isDerived, header, sameKey,
            refused]

end Opening

end OpenClipboard.ConfigMigration
