import OpenClipboard.Pairing.KeyMaterial

/-!
# The joiner's handshake

`JoinerHandshakeCoordinator::handshake` from the dial to the outcome, over
everything the sponsor, the transport and the storage may answer.  The local
keys are replaced in the middle of it, before the sponsor has accepted.
-/

namespace OpenClipboard.Pairing

open Text

inductive DiscoveryChannel where
  | cloud
  | lan
  deriving DecidableEq, Repr

/-- What a `recv_next` under the time limit ends with. -/
inductive Received where
  | timedOut
  | message (message : PairingSessionMessage)
  | closed
  | failed (error : SessionError)
  deriving DecidableEq, Repr

structure JoinerHandshakeOutcome where
  sponsorDeviceId : DeviceId
  sponsorDeviceName : String
  sponsorIdentityFingerprint : IdentityFingerprint
  spaceId : SpaceId
  selfDeviceId : DeviceId
  selfIdentityFingerprint : IdentityFingerprint
  discoveryChannel : DiscoveryChannel
  sponsorTransportAddressBlob : List UInt8
  sponsorSpacePersonId : Option Uuid
  deriving DecidableEq, Repr

/-- Everything a handshake meets, in the order it meets it. -/
structure JoinerRun where
  code : InvitationCode
  passphrase : List UInt8
  dial : Except DialError DiscoveryChannel
  localIdentity : Except String IdentityFingerprint
  deviceId : DeviceId
  settings : Except String (Option String)
  addressBlob : Option (List UInt8)
  sendRequest : Option SessionError
  firstReply : Received
  storage : StorageFaults
  buildProof : Option String
  sendResponse : Option SessionError
  secondReply : Received

namespace JoinerRun

/-- White space only, or nothing. -/
def isBlank (name : String) : Bool :=
  (trim name).isEmpty

structure LocalFacts where
  channel : DiscoveryChannel
  fingerprint : IdentityFingerprint
  deviceName : String
  deriving DecidableEq, Repr

def localFacts (run : JoinerRun) :
    Except RedeemPairingInvitationError LocalFacts :=
  match run.dial with
  | .error error => .error (mapDialErr error)
  | .ok channel =>
      match run.localIdentity with
      | .error error => .error (.internal ("local_identity.ensure: " ++ error))
      | .ok fingerprint =>
          match run.settings with
          | .error error => .error (.internal ("settings.load: " ++ error))
          | .ok deviceName =>
              match deviceName.filter fun name => !isBlank name with
              | none => .error .deviceNameRequired
              | some deviceName => .ok ⟨channel, fingerprint, deviceName⟩

def request (run : JoinerRun) (facts : LocalFacts) : JoinerRequest where
  invitationCode := run.code
  deviceId := run.deviceId
  deviceName := facts.deviceName
  identityFingerprint := facts.fingerprint
  nonce := []
  transportAddressBlob := run.addressBlob.getD []

/-- A reply other than the one that is due ends the handshake. -/
def expect {α : Type} (due : String)
    (isDue : PairingSessionMessage → Option α) :
    Received → Except RedeemPairingInvitationError α
  | .timedOut => .error .timeout
  | .closed => .error .connectionLost
  | .failed error => .error (mapSessionErr error)
  | .message message =>
      match isDue message, message with
      | some expected, _ => .ok expected
      | none, .reject reason => .error (mapSponsorReject reason)
      | none, other =>
          .error (.internal
            ("expected " ++ due ++ ", got " ++ variantName other))

def asOffer : PairingSessionMessage → Option SponsorKeyslotOffer
  | .keyslotOffer offer => some offer
  | _ => none

def asConfirm : PairingSessionMessage → Option SponsorConfirm
  | .confirm confirm => some confirm
  | _ => none

def challengeToArray (challenge : List UInt8) :
    Except RedeemPairingInvitationError Digest :=
  if sized : challenge.length = 32 then
    .ok ⟨challenge, sized⟩
  else
    .error (.internal
      ("challenge nonce wire length invalid: expected 32 bytes, got " ++
        toString challenge.length))

def awaitOffer (run : JoinerRun) :
    Except RedeemPairingInvitationError (SponsorKeyslotOffer × Digest) :=
  match run.sendRequest with
  | some error => .error (mapSessionErr error)
  | none =>
      match expect "KeyslotOffer" asOffer run.firstReply with
      | .error error => .error error
      | .ok offer =>
          match challengeToArray offer.challenge with
          | .error error => .error error
          | .ok nonce => .ok (offer, nonce)

def awaitConfirm (run : JoinerRun) :
    Except RedeemPairingInvitationError SponsorConfirm :=
  match run.buildProof with
  | some error => .error (.internal ("build_proof: " ++ error))
  | none =>
      match run.sendResponse with
      | some error => .error (mapSessionErr error)
      | none => expect "Confirm" asConfirm run.secondReply

def outcome (run : JoinerRun) (facts : LocalFacts) (confirm : SponsorConfirm) :
    JoinerHandshakeOutcome where
  sponsorDeviceId := confirm.senderDeviceId
  sponsorDeviceName := confirm.senderDeviceName
  sponsorIdentityFingerprint := confirm.senderIdentityFingerprint
  spaceId := confirm.spaceId
  selfDeviceId := run.deviceId
  selfIdentityFingerprint := facts.fingerprint
  discoveryChannel := facts.channel
  sponsorTransportAddressBlob := confirm.transportAddressBlob
  sponsorSpacePersonId := confirm.sponsorSpacePersonId

section Handshake

variable (crypto : KeyCrypto)

/-- The result, `none` being a panic, and the keys afterwards. -/
def handshake (run : JoinerRun) (keys : DeviceKeys) :
    Option (Except RedeemPairingInvitationError JoinerHandshakeOutcome) ×
      DeviceKeys :=
  match run.localFacts with
  | .error error => (some (.error error), keys)
  | .ok facts =>
      match run.awaitOffer with
      | .error error => (some (.error error), keys)
      | .ok (offer, _) =>
          match deriveMasterKeyForProof crypto keys offer.keyslotBlob
              run.passphrase run.storage with
          | (none, keys) => (none, keys)
          | (some (.error error), keys) =>
              (some (.error (mapSpaceAccessErr error)), keys)
          | (some (.ok _), keys) =>
              (some (run.awaitConfirm.map (run.outcome facts)), keys)

/-! ## What a handshake does to the keys -/

/-- The keys that reach the store: the sponsor offers them and the passphrase
unwraps them. -/
def acceptedOffer (run : JoinerRun) : Option OfferedKeys :=
  match run.localFacts, run.awaitOffer with
  | .ok _, .ok (offer, _) =>
      match openOffer crypto offer.keyslotBlob run.passphrase with
      | some (.ok offered) => some offered
      | _ => none
  | _, _ => none

variable {crypto} {run : JoinerRun} {keys : DeviceKeys}

theorem handshake_keys :
    (run.handshake crypto keys).2 =
      match run.acceptedOffer crypto with
      | none => keys
      | some offered => (keys.replace offered run.storage).2 := by
  unfold handshake acceptedOffer
  cases run.localFacts with
  | error error => rfl
  | ok facts =>
      cases run.awaitOffer with
      | error error => rfl
      | ok awaited =>
          obtain ⟨offer, nonce⟩ := awaited
          simp only [deriveMasterKeyForProof]
          cases openOffer crypto offer.keyslotBlob run.passphrase with
          | none => rfl
          | some opened =>
              cases opened with
              | error error => rfl
              | ok offered =>
                  cases replaced : keys.replace offered run.storage with
                  | mk result after =>
                      cases result with
                      | error error => simp [replaced]
                      | ok done => simp [replaced]

end Handshake

/-! ## A sponsor that falls silent after the proof -/

namespace Sample

def slot (masterKey : MasterKey) : KeySlotFile where
  version := "V1"
  scope := ⟨"default"⟩
  kdf := ⟨"Argon2id", ⟨131072, 3, 4⟩⟩
  salt := List.replicate 16 0
  wrappedMasterKey := ⟨"V1", "XChaCha20Poly1305", sampleNonce.bytes,
    transparentAead.encrypt (sampleKey 1) sampleNonce masterKey.bytes [], none⟩

/-- Every blob is the keyslot of the new space. -/
def crypto : KeyCrypto where
  fromSlice := fun _ => some ⟨"V1", ⟨"default"⟩,
    (slot (sampleKey 8)).kdf, (slot (sampleKey 8)).salt,
    some (slot (sampleKey 8)).wrappedMasterKey⟩
  hashPasswordInto := fun _ _ _ => .ok (sampleKey 1)
  aead := transparentAead
  hmac := fun masterKey payload => masterKey.bytes ++ payload

def keys : DeviceKeys where
  keyslot := .file (slot (sampleKey 7))
  keychain := (∅ : Table String MasterKey).put (kekKey ⟨"default"⟩)
    (sampleKey 1)
  session := some (sampleKey 7)
  kekObserved := true

def silentAfterProof : JoinerRun where
  code := ⟨"ABCD-1234"⟩
  passphrase := asBytes "passphrase"
  dial := .ok .cloud
  localIdentity := .ok ⟨"ABCDEFGHIJKLMNOP", by decide⟩
  deviceId := { asStr := "joining" }
  settings := .ok (some "Desk")
  addressBlob := none
  sendRequest := none
  firstReply := .message (.keyslotOffer
    ⟨⟨"space"⟩, [], List.replicate 32 0, ⟨"sponsor:0"⟩⟩)
  storage := ⟨none, none, none, none⟩
  buildProof := none
  sendResponse := none
  secondReply := .timedOut

end Sample

end JoinerRun

end OpenClipboard.Pairing
