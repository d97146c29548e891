import OpenClipboard.Core.ActiveState

/-!
# Pairing messages

What joiner and sponsor say to each other in a pairing session, and the errors
the joiner reports.  The messages are those the codec delivers; a frame that
cannot be decoded is an error of the session.
-/

namespace OpenClipboard.Pairing

structure SpaceId where
  asStr : String
  deriving DecidableEq, Repr

structure InvitationCode where
  asStr : String
  deriving DecidableEq, Repr

structure PairingSessionId where
  asStr : String
  deriving DecidableEq, Repr

/-- A fingerprint by its raw characters; the separators of the display form
are no part of it. -/
structure IdentityFingerprint where
  asRaw : String
  wellFormed : asRaw.length = 16 ∧ asRaw.toList.all Char.isAlphanum = true
  deriving DecidableEq, Repr

@[ext]
structure Uuid where
  bytes : List UInt8
  length_eq : bytes.length = 16
  deriving Repr

instance : DecidableEq Uuid := fun left right =>
  decidable_of_iff (left.bytes = right.bytes) Uuid.ext_iff.symm

structure JoinerRequest where
  invitationCode : InvitationCode
  deviceId : DeviceId
  deviceName : String
  identityFingerprint : IdentityFingerprint
  nonce : List UInt8
  transportAddressBlob : List UInt8
  deriving DecidableEq, Repr

structure SponsorKeyslotOffer where
  spaceId : SpaceId
  keyslotBlob : List UInt8
  challenge : List UInt8
  pairingSessionId : PairingSessionId
  deriving DecidableEq, Repr

structure JoinerChallengeResponse where
  encryptedChallenge : List UInt8
  deriving DecidableEq, Repr

structure SponsorConfirm where
  spaceId : SpaceId
  senderDeviceId : DeviceId
  senderDeviceName : String
  senderIdentityFingerprint : IdentityFingerprint
  transportAddressBlob : List UInt8
  sponsorSpacePersonId : Option Uuid
  deriving DecidableEq, Repr

inductive PairingRejectReason where
  | invitationMismatch
  | passphraseMismatch
  | userRejected
  | timeout
  | internal (message : String)
  deriving DecidableEq, Repr

inductive PairingSessionMessage where
  | request (request : JoinerRequest)
  | keyslotOffer (offer : SponsorKeyslotOffer)
  | challengeResponse (response : JoinerChallengeResponse)
  | confirm (confirm : SponsorConfirm)
  | reject (reason : PairingRejectReason)
  deriving DecidableEq, Repr

def variantName : PairingSessionMessage → String
  | .request _ => "Request"
  | .keyslotOffer _ => "KeyslotOffer"
  | .challengeResponse _ => "ChallengeResponse"
  | .confirm _ => "Confirm"
  | .reject _ => "Reject"

inductive DialError where
  | invitationNotFound
  | invitationExpired
  | sponsorUnreachable
  | serviceUnavailable
  | internal (message : String)
  deriving DecidableEq, Repr

inductive SessionError where
  | notFound (session : PairingSessionId)
  | closed
  | internal (message : String)
  deriving DecidableEq, Repr

inductive SpaceAccessError where
  | notInitialized
  | alreadyInitialized
  | wrongPassphrase
  | notUnlocked
  | corruptedKeyMaterial
  | internal (message : String)
  deriving DecidableEq, Repr

def SpaceAccessError.display : SpaceAccessError → String
  | .notInitialized => "space not initialized"
  | .alreadyInitialized => "space already initialized"
  | .wrongPassphrase => "wrong passphrase"
  | .notUnlocked => "space not unlocked"
  | .corruptedKeyMaterial => "space key material corrupted or unsupported"
  | .internal message => "space access internal error: " ++ message

inductive RedeemPairingInvitationError where
  | invitationNotFound
  | invitationExpired
  | sponsorUnreachable
  | serviceUnavailable
  | passphraseMismatch
  | corruptedKeyMaterial
  | deviceNameRequired
  | sponsorRejectedInvitation
  | sponsorDeclined
  | sponsorTimedOut
  | sponsorInternal (message : String)
  | timeout
  | connectionLost
  | internal (message : String)
  deriving DecidableEq, Repr

def mapDialErr : DialError → RedeemPairingInvitationError
  | .invitationNotFound => .invitationNotFound
  | .invitationExpired => .invitationExpired
  | .sponsorUnreachable => .sponsorUnreachable
  | .serviceUnavailable => .serviceUnavailable
  | .internal message => .internal message

def mapSessionErr : SessionError → RedeemPairingInvitationError
  | .notFound _ => .connectionLost
  | .closed => .connectionLost
  | .internal message => .internal message

def mapSpaceAccessErr : SpaceAccessError → RedeemPairingInvitationError
  | .wrongPassphrase => .passphraseMismatch
  | .corruptedKeyMaterial => .corruptedKeyMaterial
  | other => .internal ("derive_master_key_for_proof: " ++ other.display)

def mapSponsorReject : PairingRejectReason → RedeemPairingInvitationError
  | .invitationMismatch => .sponsorRejectedInvitation
  | .passphraseMismatch => .passphraseMismatch
  | .userRejected => .sponsorDeclined
  | .timeout => .sponsorTimedOut
  | .internal message => .sponsorInternal message

end OpenClipboard.Pairing
