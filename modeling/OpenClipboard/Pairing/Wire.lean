import OpenClipboard.Core.ContentHash
import OpenClipboard.Library.Postcard
import OpenClipboard.Pairing.Message

/-!
# The binary codec of pairing messages

A frame is a postcard envelope of a version and a body.  The decoder compares
the version after it has parsed the whole frame in the current layout, so it
names the version only of a frame that parses.
-/

namespace OpenClipboard.Pairing

open Text

/-! ## Lengths of texts in bytes -/

theorem length_asBytes (text : String) :
    (asBytes text).length = (text.toList.map Char.utf8Size).sum := by
  rw [asBytes_eq_flatMap, List.length_flatMap]
  congr 1
  apply List.map_congr_left
  intro c _
  exact String.length_utf8EncodeChar c

theorem length_asBytes_le (text : String) :
    (asBytes text).length ≤ 4 * text.length := by
  rw [length_asBytes, ← String.length_toList]
  induction text.toList with
  | nil => rfl
  | cons c rest inductionHypothesis =>
      have small := Char.utf8Size_le_four c
      rw [List.map_cons, List.sum_cons, List.length_cons]
      omega

theorem utf8Size_of_isAlphanum {c : Char} (alphanumeric : c.isAlphanum = true) :
    c.utf8Size = 1 := by
  simp only [Char.isAlphanum, Char.isAlpha, Char.isUpper, Char.isLower,
    Char.isDigit, Bool.or_eq_true, Bool.and_eq_true, decide_eq_true_eq,
    UInt32.le_iff_toNat_le, Char.reduceVal, UInt32.reduceToNat]
    at alphanumeric
  rw [Char.utf8Size_eq_one_iff, UInt32.le_iff_toNat_le]
  have isAscii : c.val.toNat ≤ 127 := by omega
  exact isAscii

theorem length_asBytes_of_isAlphanum {text : String}
    (alphanumeric : text.toList.all Char.isAlphanum = true) :
    (asBytes text).length = text.length := by
  rw [length_asBytes, ← String.length_toList]
  generalize text.toList = chars at alphanumeric ⊢
  induction chars with
  | nil => rfl
  | cons c rest inductionHypothesis =>
      rw [List.all_cons, Bool.and_eq_true] at alphanumeric
      have one := utf8Size_of_isAlphanum alphanumeric.1
      have later := inductionHypothesis alphanumeric.2
      rw [List.map_cons, List.sum_cons, later, one, List.length_cons]
      omega

/-! ## Fingerprints in display form -/

inductive FingerprintError where
  | invalidFormat (message : String)
  | mismatch
  deriving DecidableEq, Repr

def FingerprintError.display : FingerprintError → String
  | .invalidFormat message => "invalid fingerprint format: " ++ message
  | .mismatch => "fingerprint mismatch"

def formatWithGroups : List Char → List Char
  | first :: second :: third :: fourth :: next :: rest =>
      first :: second :: third :: fourth :: '-' ::
        formatWithGroups (next :: rest)
  | raw => raw

namespace IdentityFingerprint

def fromRawString (raw : String) :
    Except FingerprintError IdentityFingerprint :=
  if sized : (asBytes raw).length = 16 then
    if alphanumeric : raw.toList.all Char.isAlphanum = true then
      .ok ⟨raw, by
        rw [length_asBytes_of_isAlphanum alphanumeric] at sized
        exact ⟨sized, alphanumeric⟩⟩
    else
      .error (.invalidFormat "non-alphanumeric characters found")
  else
    .error (.invalidFormat
      s!"expected 16 characters, got {(asBytes raw).length}")

def fromDisplayString (text : String) :
    Except FingerprintError IdentityFingerprint :=
  fromRawString (String.ofList (text.toList.filter (· ≠ '-')))

def asDisplay (fingerprint : IdentityFingerprint) : String :=
  String.ofList (formatWithGroups fingerprint.asRaw.toList)

theorem filter_formatWithGroups {raw : List Char} (clean : '-' ∉ raw) :
    (formatWithGroups raw).filter (· ≠ '-') = raw := by
  induction raw using formatWithGroups.induct with
  | case1 first second third fourth next rest inductionHypothesis =>
      simp only [List.mem_cons, not_or] at clean
      obtain ⟨notFirst, notSecond, notThird, notFourth, notNext, notRest⟩ :=
        clean
      have later := inductionHypothesis (by
        rw [List.mem_cons, not_or]
        exact ⟨notNext, notRest⟩)
      rw [formatWithGroups]
      simp only [List.filter_cons, later]
      simp [Ne.symm notFirst, Ne.symm notSecond, Ne.symm notThird,
        Ne.symm notFourth]
  | case2 raw short =>
      rw [formatWithGroups]
      · apply List.filter_eq_self.mpr
        intro c member
        rw [decide_eq_true_eq]
        rintro rfl
        exact clean member
      · exact short

theorem length_formatWithGroups_le (raw : List Char) :
    (formatWithGroups raw).length ≤ 2 * raw.length := by
  induction raw using formatWithGroups.induct with
  | case1 first second third fourth next rest inductionHypothesis =>
      rw [formatWithGroups]
      simp only [List.length_cons] at inductionHypothesis ⊢
      omega
  | case2 raw short =>
      rw [formatWithGroups]
      · omega
      · exact short

theorem fromDisplayString_asDisplay (fingerprint : IdentityFingerprint) :
    fromDisplayString fingerprint.asDisplay = .ok fingerprint := by
  obtain ⟨raw, sized, alphanumeric⟩ := fingerprint
  have clean : '-' ∉ raw.toList := by
    intro member
    have isAlphanum := List.all_eq_true.mp alphanumeric '-' member
    revert isAlphanum
    decide
  have isRaw : String.ofList
      ((asDisplay ⟨raw, sized, alphanumeric⟩).toList.filter (· ≠ '-')) =
        raw := by
    rw [asDisplay, String.toList_ofList, filter_formatWithGroups clean,
      String.ofList_toList]
  have inBytes : (asBytes raw).length = 16 := by
    rw [length_asBytes_of_isAlphanum alphanumeric, sized]
  rw [fromDisplayString, isRaw, fromRawString, dif_pos inBytes,
    dif_pos alphanumeric]

end IdentityFingerprint

/-! ## Identifiers in text form -/

/-- `Display` of the `uuid` library: lower-case, with hyphens. -/
def Uuid.display (id : Uuid) : String :=
  let digits (start count : Nat) : String :=
    ContentHash.hexEncode ((id.bytes.drop start).take count)
  digits 0 4 ++ "-" ++ digits 4 2 ++ "-" ++ digits 6 2 ++ "-" ++
    digits 8 2 ++ "-" ++ digits 10 6

/-- `Uuid::parse_str`. -/
structure UuidParser where
  parseStr : String → Except String Uuid
  parseStr_display : ∀ id : Uuid, parseStr id.display = .ok id

theorem Uuid.length_display_le (id : Uuid) : id.display.length ≤ 36 := by
  have twoDigits (bytes : List UInt8) :
      (ContentHash.hexEncode bytes).length = 2 * bytes.length := by
    rw [ContentHash.hexEncode, String.length_ofList, List.length_flatMap]
    simp [Nat.mul_comm]
  simp only [display, String.length_append, twoDigits, List.length_take]
  have hyphen : "-".length = 1 := by decide
  omega

/-! ## Wire types -/

namespace Wire

open Postcard

def wireVersion : UInt8 := 3

structure WireJoinerRequest where
  invitationCode : String
  deviceId : String
  deviceName : String
  identityFingerprint : String
  nonce : List UInt8
  transportAddressBlob : List UInt8
  deriving DecidableEq, Repr

structure WireSponsorKeyslotOffer where
  spaceId : String
  keyslotBlob : List UInt8
  challenge : List UInt8
  pairingSessionId : String
  deriving DecidableEq, Repr

structure WireJoinerChallengeResponse where
  encryptedChallenge : List UInt8
  deriving DecidableEq, Repr

structure WireSponsorConfirm where
  spaceId : String
  senderDeviceId : String
  senderDeviceName : String
  senderIdentityFingerprint : String
  transportAddressBlob : List UInt8
  sponsorSpacePersonId : Option String
  deriving DecidableEq, Repr

inductive WireRejectReason where
  | invitationMismatch
  | passphraseMismatch
  | userRejected
  | timeout
  | internal (message : String)
  deriving DecidableEq, Repr

structure WirePairingReject where
  reason : WireRejectReason
  deriving DecidableEq, Repr

inductive WireBody where
  | request (request : WireJoinerRequest)
  | keyslotOffer (offer : WireSponsorKeyslotOffer)
  | challengeResponse (response : WireJoinerChallengeResponse)
  | confirm (confirm : WireSponsorConfirm)
  | reject (reject : WirePairingReject)
  deriving DecidableEq, Repr

structure WireEnvelope where
  v : UInt8
  body : WireBody
  deriving DecidableEq, Repr

inductive WireDecodeError where
  | postcard (error : Postcard.Error)
  | unsupportedVersion (got expected : UInt8)
  | invalidFingerprint (message : String)
  | invalidSpacePersonId (message : String)
  deriving DecidableEq, Repr

/-! ## Their formats -/

section Formats

open Format

def wireJoinerRequest : Format WireJoinerRequest :=
  (text.pair <| text.pair <| text.pair <| text.pair <|
    bytes.pair bytes).embed
    (fun (code, id, name, fingerprint, nonce, blob) =>
      ⟨code, id, name, fingerprint, nonce, blob⟩)
    (fun request => some (request.invitationCode, request.deviceId,
      request.deviceName, request.identityFingerprint, request.nonce,
      request.transportAddressBlob))
    (by rintro value parts ⟨⟩; rfl)

def wireSponsorKeyslotOffer : Format WireSponsorKeyslotOffer :=
  (text.pair <| bytes.pair <| bytes.pair text).embed
    (fun (spaceId, blob, challenge, session) =>
      ⟨spaceId, blob, challenge, session⟩)
    (fun offer => some (offer.spaceId, offer.keyslotBlob, offer.challenge,
      offer.pairingSessionId))
    (by rintro value parts ⟨⟩; rfl)

def wireJoinerChallengeResponse : Format WireJoinerChallengeResponse :=
  bytes.embed (fun challenge => ⟨challenge⟩)
    (fun response => some response.encryptedChallenge)
    (by rintro value parts ⟨⟩; rfl)

def wireSponsorConfirm : Format WireSponsorConfirm :=
  (text.pair <| text.pair <| text.pair <| text.pair <|
    bytes.pair (option text)).embed
    (fun (spaceId, id, name, fingerprint, blob, person) =>
      ⟨spaceId, id, name, fingerprint, blob, person⟩)
    (fun confirm => some (confirm.spaceId, confirm.senderDeviceId,
      confirm.senderDeviceName, confirm.senderIdentityFingerprint,
      confirm.transportAddressBlob, confirm.sponsorSpacePersonId))
    (by rintro value parts ⟨⟩; rfl)

def WireRejectReason.variantIndex : WireRejectReason → Nat
  | .invitationMismatch => 0
  | .passphraseMismatch => 1
  | .userRejected => 2
  | .timeout => 3
  | .internal _ => 4

def wireRejectReason : Format WireRejectReason :=
  enum WireRejectReason.variantIndex [
    constant .invitationMismatch,
    constant .passphraseMismatch,
    constant .userRejected,
    constant .timeout,
    text.embed .internal
      (fun | .internal message => some message | _ => none)
      (by rintro (_ | _ | _ | _ | _) parts ⟨⟩; rfl)]

def wirePairingReject : Format WirePairingReject :=
  wireRejectReason.embed (fun reason => ⟨reason⟩)
    (fun reject => some reject.reason) (by rintro value parts ⟨⟩; rfl)

def WireBody.variantIndex : WireBody → Nat
  | .request _ => 0
  | .keyslotOffer _ => 1
  | .challengeResponse _ => 2
  | .confirm _ => 3
  | .reject _ => 4

def wireBody : Format WireBody :=
  enum WireBody.variantIndex [
    wireJoinerRequest.embed .request
      (fun | .request request => some request | _ => none)
      (by rintro (_ | _ | _ | _ | _) parts ⟨⟩; rfl),
    wireSponsorKeyslotOffer.embed .keyslotOffer
      (fun | .keyslotOffer offer => some offer | _ => none)
      (by rintro (_ | _ | _ | _ | _) parts ⟨⟩; rfl),
    wireJoinerChallengeResponse.embed .challengeResponse
      (fun | .challengeResponse response => some response | _ => none)
      (by rintro (_ | _ | _ | _ | _) parts ⟨⟩; rfl),
    wireSponsorConfirm.embed .confirm
      (fun | .confirm confirm => some confirm | _ => none)
      (by rintro (_ | _ | _ | _ | _) parts ⟨⟩; rfl),
    wirePairingReject.embed .reject
      (fun | .reject reject => some reject | _ => none)
      (by rintro (_ | _ | _ | _ | _) parts ⟨⟩; rfl)]

def wireEnvelope : Format WireEnvelope :=
  (byte.pair wireBody).embed (fun (v, body) => ⟨v, body⟩)
    (fun envelope => some (envelope.v, envelope.body))
    (by rintro value parts ⟨⟩; rfl)

end Formats

/-! ## Conversions -/

def WireRejectReason.ofReason : PairingRejectReason → WireRejectReason
  | .invitationMismatch => .invitationMismatch
  | .passphraseMismatch => .passphraseMismatch
  | .userRejected => .userRejected
  | .timeout => .timeout
  | .internal message => .internal message

def WireRejectReason.toReason : WireRejectReason → PairingRejectReason
  | .invitationMismatch => .invitationMismatch
  | .passphraseMismatch => .passphraseMismatch
  | .userRejected => .userRejected
  | .timeout => .timeout
  | .internal message => .internal message

@[simp]
theorem WireRejectReason.toReason_ofReason (reason : PairingRejectReason) :
    (ofReason reason).toReason = reason := by
  cases reason <;> rfl

def toWire : PairingSessionMessage → WireBody
  | .request request => .request {
      invitationCode := request.invitationCode.asStr
      deviceId := request.deviceId.asStr
      deviceName := request.deviceName
      identityFingerprint := request.identityFingerprint.asDisplay
      nonce := request.nonce
      transportAddressBlob := request.transportAddressBlob }
  | .keyslotOffer offer => .keyslotOffer {
      spaceId := offer.spaceId.asStr
      keyslotBlob := offer.keyslotBlob
      challenge := offer.challenge
      pairingSessionId := offer.pairingSessionId.asStr }
  | .challengeResponse response =>
      .challengeResponse ⟨response.encryptedChallenge⟩
  | .confirm confirm => .confirm {
      spaceId := confirm.spaceId.asStr
      senderDeviceId := confirm.senderDeviceId.asStr
      senderDeviceName := confirm.senderDeviceName
      senderIdentityFingerprint :=
        confirm.senderIdentityFingerprint.asDisplay
      transportAddressBlob := confirm.transportAddressBlob
      sponsorSpacePersonId := confirm.sponsorSpacePersonId.map Uuid.display }
  | .reject reason => .reject ⟨.ofReason reason⟩

/-- `DeviceId::new`; `none` is its panic. -/
def deviceIdNew (text : String) : Option DeviceId :=
  if bounded : text.utf8ByteSize ≤ deviceIdMaxBytes then
    some ⟨text, bounded⟩
  else
    none

def parseFingerprint (text : String) :
    Except WireDecodeError IdentityFingerprint :=
  match IdentityFingerprint.fromDisplayString text with
  | .error error => .error (.invalidFingerprint error.display)
  | .ok fingerprint => .ok fingerprint

section Codec

variable (uuid : UuidParser)

def parseSpacePersonId : Option String →
    Except WireDecodeError (Option Uuid)
  | none => .ok none
  | some text =>
      match uuid.parseStr text with
      | .error error =>
          .error (.invalidSpacePersonId (error ++ " (got `" ++ text ++ "`)"))
      | .ok id => .ok (some id)

/-- `none` is the panic on a device id that is too long. -/
def fromWire : WireBody → Option (Except WireDecodeError PairingSessionMessage)
  | .request request =>
      (deviceIdNew request.deviceId).map fun deviceId => do
        let fingerprint ← parseFingerprint request.identityFingerprint
        .ok (.request {
          invitationCode := ⟨request.invitationCode⟩
          deviceId := deviceId
          deviceName := request.deviceName
          identityFingerprint := fingerprint
          nonce := request.nonce
          transportAddressBlob := request.transportAddressBlob })
  | .keyslotOffer offer => some (.ok (.keyslotOffer {
      spaceId := ⟨offer.spaceId⟩
      keyslotBlob := offer.keyslotBlob
      challenge := offer.challenge
      pairingSessionId := ⟨offer.pairingSessionId⟩ }))
  | .challengeResponse response =>
      some (.ok (.challengeResponse ⟨response.encryptedChallenge⟩))
  | .confirm confirm =>
      (deviceIdNew confirm.senderDeviceId).map fun deviceId => do
        let fingerprint ← parseFingerprint confirm.senderIdentityFingerprint
        let personId ← parseSpacePersonId uuid confirm.sponsorSpacePersonId
        .ok (.confirm {
          spaceId := ⟨confirm.spaceId⟩
          senderDeviceId := deviceId
          senderDeviceName := confirm.senderDeviceName
          senderIdentityFingerprint := fingerprint
          transportAddressBlob := confirm.transportAddressBlob
          sponsorSpacePersonId := personId })
  | .reject reject => some (.ok (.reject reject.reason.toReason))

/-- `postcard` does not fail on these types. -/
def encode (message : PairingSessionMessage) : List UInt8 :=
  wireEnvelope.write ⟨wireVersion, toWire message⟩

/-- What follows the envelope is ignored. -/
def decode (bytes : List UInt8) :
    Option (Except WireDecodeError PairingSessionMessage) :=
  match wireEnvelope.read bytes with
  | .error error => some (.error (.postcard error))
  | .ok (envelope, _) =>
      if envelope.v ≠ wireVersion then
        some (.error (.unsupportedVersion envelope.v wireVersion))
      else
        fromWire uuid envelope.body

/-! ## What is encoded decodes -/

variable {uuid}

theorem parseFingerprint_asDisplay (fingerprint : IdentityFingerprint) :
    parseFingerprint fingerprint.asDisplay = .ok fingerprint := by
  rw [parseFingerprint, IdentityFingerprint.fromDisplayString_asDisplay]

theorem parseSpacePersonId_display (personId : Option Uuid) :
    parseSpacePersonId uuid (personId.map Uuid.display) = .ok personId := by
  cases personId with
  | none => rfl
  | some id =>
      rw [Option.map_some, parseSpacePersonId, uuid.parseStr_display]

theorem deviceIdNew_asStr (deviceId : DeviceId) :
    deviceIdNew deviceId.asStr = some deviceId := by
  rw [deviceIdNew, dif_pos deviceId.bounded]

theorem fromWire_toWire (message : PairingSessionMessage) :
    fromWire uuid (toWire message) = some (.ok message) := by
  cases message with
  | request request =>
      simp only [toWire, fromWire, deviceIdNew_asStr,
        parseFingerprint_asDisplay]
      rfl
  | keyslotOffer offer => rfl
  | challengeResponse response => rfl
  | confirm confirm =>
      simp only [toWire, fromWire, deviceIdNew_asStr,
        parseFingerprint_asDisplay, parseSpacePersonId_display]
      rfl
  | reject reason =>
      rw [toWire, fromWire, WireRejectReason.toReason_ofReason]

/-- The lengths in bytes of the texts and vectors of a message. -/
def lengths : PairingSessionMessage → List Nat
  | .request request => [
      (asBytes request.invitationCode.asStr).length,
      (asBytes request.deviceId.asStr).length,
      (asBytes request.deviceName).length, request.nonce.length,
      request.transportAddressBlob.length]
  | .keyslotOffer offer => [
      (asBytes offer.spaceId.asStr).length, offer.keyslotBlob.length,
      offer.challenge.length, (asBytes offer.pairingSessionId.asStr).length]
  | .challengeResponse response => [response.encryptedChallenge.length]
  | .confirm confirm => [
      (asBytes confirm.spaceId.asStr).length,
      (asBytes confirm.senderDeviceId.asStr).length,
      (asBytes confirm.senderDeviceName).length,
      confirm.transportAddressBlob.length]
  | .reject (.internal message) => [(asBytes message).length]
  | .reject _ => []

/-- Every length is a `usize`, as it is of any message in memory. -/
def InMemory (message : PairingSessionMessage) : Prop :=
  ∀ length ∈ lengths message, length < 2 ^ 64

instance decidableInMemory (message : PairingSessionMessage) :
    Decidable (InMemory message) :=
  inferInstanceAs (Decidable (∀ length ∈ lengths message, length < 2 ^ 64))

theorem fits_asDisplay (fingerprint : IdentityFingerprint) :
    Format.text.Fits fingerprint.asDisplay := by
  have inBytes := length_asBytes_le fingerprint.asDisplay
  have grouped := IdentityFingerprint.length_formatWithGroups_le
    fingerprint.asRaw.toList
  have sized := fingerprint.wellFormed.1
  have sameLength : fingerprint.asDisplay.length =
      (formatWithGroups fingerprint.asRaw.toList).length :=
    String.length_ofList
  rw [String.length_toList] at grouped
  show (asBytes fingerprint.asDisplay).length < 2 ^ 64
  omega

theorem fits_display (id : Uuid) : Format.text.Fits id.display := by
  have inBytes := length_asBytes_le id.display
  have sized := id.length_display_le
  show (asBytes id.display).length < 2 ^ 64
  omega

theorem fits_bodyIndex (body : WireBody) :
    Format.index.Fits body.variantIndex := by
  have enough : 5 ≤ VarintWidth.u32.bound := by decide
  have small : body.variantIndex < 5 := by
    cases body <;> simp [WireBody.variantIndex]
  exact small.trans_le enough

theorem fits_reasonIndex (reason : WireRejectReason) :
    Format.index.Fits reason.variantIndex := by
  have enough : 5 ≤ VarintWidth.u32.bound := by decide
  have small : reason.variantIndex < 5 := by
    cases reason <;> simp [WireRejectReason.variantIndex]
  exact small.trans_le enough

theorem fits_toWire {message : PairingSessionMessage}
    (inMemory : InMemory message) : wireBody.Fits (toWire message) := by
  cases message with
  | request request =>
      simp only [InMemory, lengths, List.forall_mem_cons] at inMemory
      obtain ⟨code, id, name, nonce, blob, _⟩ := inMemory
      exact ⟨fits_bodyIndex _, _, rfl, _, rfl, _, rfl, code, id, name,
        fits_asDisplay _, nonce, blob⟩
  | keyslotOffer offer =>
      simp only [InMemory, lengths, List.forall_mem_cons] at inMemory
      obtain ⟨spaceId, blob, challenge, session, _⟩ := inMemory
      exact ⟨fits_bodyIndex _, _, rfl, _, rfl, _, rfl, spaceId, blob,
        challenge, session⟩
  | challengeResponse response =>
      simp only [InMemory, lengths, List.forall_mem_cons] at inMemory
      exact ⟨fits_bodyIndex _, _, rfl, _, rfl, _, rfl, inMemory.1⟩
  | confirm confirm =>
      simp only [InMemory, lengths, List.forall_mem_cons] at inMemory
      obtain ⟨spaceId, id, name, blob, _⟩ := inMemory
      refine ⟨fits_bodyIndex _, _, rfl, _, rfl, _, rfl, spaceId, id,
        name, fits_asDisplay _, blob, ?_⟩
      intro text isText
      obtain ⟨person, _, isDisplay⟩ := Option.map_eq_some_iff.mp isText
      rw [← isDisplay]
      exact fits_display person
  | reject reason =>
      refine ⟨fits_bodyIndex _, _, rfl, _, rfl, _, rfl, ?_⟩
      cases reason with
      | internal message =>
          simp only [InMemory, lengths, List.forall_mem_cons] at inMemory
          exact ⟨fits_reasonIndex _, _, rfl, _, rfl, inMemory.1⟩
      | invitationMismatch => exact ⟨fits_reasonIndex _, _, rfl, rfl⟩
      | passphraseMismatch => exact ⟨fits_reasonIndex _, _, rfl, rfl⟩
      | userRejected => exact ⟨fits_reasonIndex _, _, rfl, rfl⟩
      | timeout => exact ⟨fits_reasonIndex _, _, rfl, rfl⟩

theorem decode_encode {message : PairingSessionMessage}
    (inMemory : InMemory message) :
    decode uuid (encode message) = some (.ok message) := by
  have fits : wireEnvelope.Fits ⟨wireVersion, toWire message⟩ :=
    ⟨_, rfl, trivial, fits_toWire inMemory⟩
  have read := wireEnvelope.read_write fits []
  rw [List.append_nil] at read
  rw [decode, encode, read]
  exact fromWire_toWire message

end Codec

end Wire

end OpenClipboard.Pairing
