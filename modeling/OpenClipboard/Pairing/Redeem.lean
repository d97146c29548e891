import OpenClipboard.Pairing.JoinerHandshake
import OpenClipboard.Pairing.Sponsor

/-!
# Redeeming an invitation

`RedeemPairingInvitationUseCase`: the handshake, and what a joiner persists of
its outcome.  The sponsor becomes a member and a trusted peer, and the space of
the confirmation becomes the joiner's.
-/

namespace OpenClipboard.Pairing

structure SetupStatus where
  hasCompleted : Bool
  spaceId : Option SpaceId
  deriving DecidableEq, Repr

structure JoinerDevice where
  keys : DeviceKeys
  members : Members
  trustedPeers : TrustedPeers
  setupStatus : SetupStatus

/-- A handshake, and what the clock and the repositories answer after it. -/
structure RedeemRun where
  handshake : JoinerRun
  now : Option Int
  admitMember : Option String
  trustPeer : Option String
  setStatus : Option String

structure RedeemPairingInvitationResult where
  sponsorDeviceId : DeviceId
  sponsorIdentityFingerprint : IdentityFingerprint
  spaceId : SpaceId
  selfDeviceId : DeviceId
  selfIdentityFingerprint : IdentityFingerprint
  deriving DecidableEq, Repr

namespace RedeemRun

def persist (run : RedeemRun) (outcome : JoinerHandshakeOutcome)
    (device : JoinerDevice) :
    Except RedeemPairingInvitationError RedeemPairingInvitationResult ×
      JoinerDevice :=
  match run.now with
  | none => (.error (.internal "clock returned invalid timestamp"), device)
  | some now =>
      match run.admitMember with
      | some error => (.error (.internal ("admit_member: " ++ error)), device)
      | none =>
          let device := { device with
            members := device.members.admitMember outcome.sponsorDeviceId
              outcome.sponsorDeviceName outcome.sponsorIdentityFingerprint
              now }
          match run.trustPeer with
          | some error => (.error (.internal ("trust_peer: " ++ error)), device)
          | none =>
              let device := { device with
                trustedPeers := device.trustedPeers.trustPeer
                  outcome.selfDeviceId outcome.sponsorDeviceId
                  outcome.sponsorIdentityFingerprint now }
              match run.setStatus with
              | some error =>
                  (.error (.internal ("setup_status.set_status: " ++ error)),
                    device)
              | none =>
                  (.ok ⟨outcome.sponsorDeviceId,
                      outcome.sponsorIdentityFingerprint, outcome.spaceId,
                      outcome.selfDeviceId, outcome.selfIdentityFingerprint⟩,
                    { device with
                      setupStatus := ⟨true, some outcome.spaceId⟩ })

/-- The result, `none` being a panic, and the device afterwards. -/
def execute (crypto : KeyCrypto) (run : RedeemRun) (device : JoinerDevice) :
    Option (Except RedeemPairingInvitationError
      RedeemPairingInvitationResult) × JoinerDevice :=
  match run.handshake.handshake crypto device.keys with
  | (none, keys) => (none, { device with keys := keys })
  | (some (.error error), keys) =>
      (some (.error error), { device with keys := keys })
  | (some (.ok outcome), keys) =>
      let persisted := run.persist outcome { device with keys := keys }
      (some persisted.1, persisted.2)

end RedeemRun

/-! ## A handshake that succeeds -/

namespace JoinerRun

variable {crypto : KeyCrypto} {run : JoinerRun} {keys after : DeviceKeys}
  {outcome : JoinerHandshakeOutcome}

/-- What a handshake went through that ends with an outcome: an offer was
opened, its keys are in place, and the confirmation gives the outcome. -/
structure Succeeded (crypto : KeyCrypto) (run : JoinerRun) (keys : DeviceKeys)
    (outcome : JoinerHandshakeOutcome) (after : DeviceKeys) (facts : LocalFacts)
    (offer : SponsorKeyslotOffer) (nonce : Digest) (masterKey : MasterKey)
    (confirm : SponsorConfirm) : Prop where
  collected : run.localFacts = .ok facts
  awaited : run.awaitOffer = .ok (offer, nonce)
  requested : run.sendRequest = none
  offered : run.firstReply = .message (.keyslotOffer offer)
  challenge : offer.challenge = nonce.bytes
  derived : deriveMasterKeyForProof crypto keys offer.keyslotBlob
    run.passphrase run.storage = (some (.ok masterKey), after)
  built : run.buildProof = none
  responded : run.sendResponse = none
  confirmed : run.secondReply = .message (.confirm confirm)
  outcome_eq : outcome = run.outcome facts confirm

theorem expect_eq_ok {α : Type} {due : String}
    {isDue : PairingSessionMessage → Option α} {received : Received}
    {expected : α} (succeeds : expect due isDue received = .ok expected) :
    ∃ message, received = .message message ∧ isDue message = some expected := by
  cases received with
  | timedOut => cases succeeds
  | closed => cases succeeds
  | failed error => cases succeeds
  | message message =>
      refine ⟨message, rfl, ?_⟩
      simp only [expect] at succeeds
      split at succeeds
      · rename_i found matched
        cases succeeds
        exact matched
      · cases succeeds
      · cases succeeds

theorem awaitOffer_eq_ok {offer : SponsorKeyslotOffer} {nonce : Digest}
    (succeeds : run.awaitOffer = .ok (offer, nonce)) :
    run.sendRequest = none ∧
      run.firstReply = .message (.keyslotOffer offer) ∧
      offer.challenge = nonce.bytes := by
  unfold awaitOffer at succeeds
  split at succeeds
  · cases succeeds
  · rename_i sent
    split at succeeds
    · cases succeeds
    · rename_i received expected
      split at succeeds
      · cases succeeds
      · rename_i digest isNonce
        cases succeeds
        obtain ⟨message, isFirst, isOffer⟩ := expect_eq_ok expected
        refine ⟨sent, ?_, ?_⟩
        · cases message with
          | keyslotOffer other =>
              cases isOffer
              exact isFirst
          | _ => cases isOffer
        · unfold challengeToArray at isNonce
          split at isNonce
          · cases isNonce
            rfl
          · cases isNonce

theorem awaitConfirm_eq_ok {confirm : SponsorConfirm}
    (succeeds : run.awaitConfirm = .ok confirm) :
    run.buildProof = none ∧ run.sendResponse = none ∧
      run.secondReply = .message (.confirm confirm) := by
  unfold awaitConfirm at succeeds
  split at succeeds
  · cases succeeds
  · rename_i built
    split at succeeds
    · cases succeeds
    · rename_i sent
      obtain ⟨message, isSecond, isConfirm⟩ := expect_eq_ok succeeds
      refine ⟨built, sent, ?_⟩
      cases message with
      | confirm other =>
          cases isConfirm
          exact isSecond
      | _ => cases isConfirm

theorem handshake_eq_ok
    (succeeds : run.handshake crypto keys = (some (.ok outcome), after)) :
    ∃ facts offer nonce masterKey confirm,
      Succeeded crypto run keys outcome after facts offer nonce masterKey
        confirm := by
  unfold handshake at succeeds
  split at succeeds
  · cases succeeds
  · rename_i facts collected
    split at succeeds
    · cases succeeds
    · rename_i offer nonce awaited
      obtain ⟨requested, offered, challenge⟩ := awaitOffer_eq_ok awaited
      split at succeeds
      · cases succeeds
      · cases succeeds
      · rename_i masterKey keysNow derived
        cases confirmed : run.awaitConfirm with
        | error error =>
            rw [confirmed] at succeeds
            cases succeeds
        | ok confirm =>
            rw [confirmed] at succeeds
            cases succeeds
            obtain ⟨built, responded, isConfirm⟩ := awaitConfirm_eq_ok confirmed
            exact ⟨facts, offer, nonce, masterKey, confirm, collected,
              awaited, requested, offered, challenge, derived, built,
              responded, isConfirm, rfl⟩

end JoinerRun

theorem session_of_derived {crypto : KeyCrypto} {keys after : DeviceKeys}
    {blob passphrase : List UInt8} {faults : StorageFaults}
    {masterKey : MasterKey}
    (derived : deriveMasterKeyForProof crypto keys blob passphrase faults =
      (some (.ok masterKey), after)) :
    after.session = some masterKey := by
  unfold deriveMasterKeyForProof at derived
  split at derived
  · cases derived
  · cases derived
  · split at derived
    · cases derived
    · rename_i offered _ _ keysNow replaced
      cases derived
      simp only [DeviceKeys.replace] at replaced
      split at replaced
      · cases replaced
      · split at replaced
        · cases replaced
        · cases replaced
          rfl

namespace RedeemRun

variable {crypto : KeyCrypto} {run : RedeemRun} {device after : JoinerDevice}
  {result : RedeemPairingInvitationResult}

theorem execute_eq_ok
    (succeeds : run.execute crypto device = (some (.ok result), after)) :
    ∃ outcome, run.handshake.handshake crypto device.keys =
        (some (.ok outcome), after.keys) ∧
      after.setupStatus = ⟨true, some outcome.spaceId⟩ ∧
      result.selfDeviceId = outcome.selfDeviceId ∧
      result.selfIdentityFingerprint = outcome.selfIdentityFingerprint := by
  unfold execute at succeeds
  split at succeeds
  · cases succeeds
  · cases succeeds
  · rename_i outcome keysNow shaken
    refine ⟨outcome, ?_⟩
    unfold persist at succeeds
    split at succeeds
    · cases succeeds
    · split at succeeds
      · cases succeeds
      · dsimp only at succeeds
        split at succeeds
        · cases succeeds
        · split at succeeds
          · cases succeeds
          · cases succeeds
            exact ⟨shaken, rfl, rfl, rfl⟩

end RedeemRun

end OpenClipboard.Pairing
