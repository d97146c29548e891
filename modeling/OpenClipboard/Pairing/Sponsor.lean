import OpenClipboard.Library.Transition
import OpenClipboard.Membership.Gates
import OpenClipboard.Pairing.KeyMaterial

/-!
# The sponsor

The inbound event loop, the handshake contexts, the invitation holder and the
watchdogs.  The loop handles one event at a time and runs from one await to the
next; watchdogs, new invitations, cancellations and the peers' frames come in
between.  Whatever can fail or is chosen outside is part of the action.
-/

namespace OpenClipboard.Pairing

/-! ## Invitations -/

inductive InvitationState where
  | pending (expiresAt : Int)
  | consumed
  | revoked
  | expired
  deriving DecidableEq, Repr

/-- An invitation; its serial number is kept to speak about it. -/
structure PairingInvitation where
  serial : Nat
  code : InvitationCode
  issuedAt : Int
  issuerDeviceId : DeviceId
  state : InvitationState
  deriving DecidableEq, Repr

inductive ConsumeError where
  | expired
  | codeMismatch
  | notPending
  deriving DecidableEq, Repr

def PairingInvitation.consume (invitation : PairingInvitation)
    (incomingCode : InvitationCode) (now : Int) :
    Except ConsumeError PairingInvitation :=
  match invitation.state with
  | .pending expiresAt =>
      if expiresAt ≤ now then
        .error .expired
      else if invitation.code ≠ incomingCode then
        .error .codeMismatch
      else
        .ok { invitation with state := .consumed }
  | _ => .error .notPending

inductive TakeMatchingError where
  | notFound
  | expired
  | internal (message : String)
  deriving DecidableEq, Repr

abbrev InvitationHolder := Table InvitationCode PairingInvitation

/-- The invitation under a code is taken out, whether it can be consumed or
not. -/
def InvitationHolder.takeMatching (holder : InvitationHolder)
    (code : InvitationCode) (now : Int) :
    Except TakeMatchingError PairingInvitation × InvitationHolder :=
  match holder.find code with
  | none => (.error .notFound, holder)
  | some invitation =>
      match invitation.consume code now with
      | .ok _ => (.ok invitation, holder.remove code)
      | .error .expired => (.error .expired, holder.remove code)
      | .error .codeMismatch =>
          (.error (.internal
            "holder key mismatches aggregate code — holder invariant broken"),
            holder.remove code)
      | .error .notPending =>
          (.error (.internal
            "holder stored a non-pending aggregate — insert/issue invariant broken"),
            holder.remove code)

/-! ## Contexts and events -/

structure JoinerFacts where
  deviceId : DeviceId
  deviceName : String
  identityFingerprint : IdentityFingerprint
  transportAddressBlob : List UInt8
  deriving DecidableEq, Repr

def JoinerRequest.facts (request : JoinerRequest) : JoinerFacts where
  deviceId := request.deviceId
  deviceName := request.deviceName
  identityFingerprint := request.identityFingerprint
  transportAddressBlob := request.transportAddressBlob

/-- What is parked between the offer and the response. -/
structure SessionCtx where
  spaceId : SpaceId
  challengeNonce : Digest
  coreSessionId : PairingSessionId
  joiner : JoinerFacts
  timerAbort : Bool
  deriving DecidableEq, Repr

inductive PairingSessionEvent where
  | incoming (session : PairingSessionId) (message : PairingSessionMessage)
  | messageReceived (session : PairingSessionId)
      (message : PairingSessionMessage)
  | closed (session : PairingSessionId)
  deriving DecidableEq, Repr

/-- The key an endpoint proves when it connects. -/
structure EndpointId where
  asStr : String
  deriving DecidableEq, Repr

/-- Where the event loop stands. -/
inductive Handling where
  | idle
  | matching (session : PairingSessionId) (request : JoinerRequest)
  | offering (session : PairingSessionId) (request : JoinerRequest)
  | sendingOffer (session : PairingSessionId) (offer : SponsorKeyslotOffer)
  | unparking (session : PairingSessionId)
  | arming (session : PairingSessionId)
  | verifying (session : PairingSessionId) (ctx : SessionCtx)
      (response : JoinerChallengeResponse)
  | admitting (session : PairingSessionId) (facts : JoinerFacts)
  | trusting (session : PairingSessionId) (facts : JoinerFacts) (now : Int)
  | confirming (session : PairingSessionId)
  | sendingConfirm (session : PairingSessionId) (ctx : SessionCtx)
  | rejecting (session : PairingSessionId) (reason : PairingRejectReason)
  | sendingReject (session : PairingSessionId) (reason : PairingRejectReason)
  | closing (session : PairingSessionId)
  deriving DecidableEq, Repr

/-- A watchdog sleeps, or has taken its context and rejects, or closes. -/
inductive Watchdog where
  | sleeping
  | firing
  | closing
  deriving DecidableEq, Repr

/-! ## Records -/

structure Member where
  deviceName : String
  identityFingerprint : IdentityFingerprint
  joinedAt : Int
  syncPreferences : MemberSyncPreferences
  deriving DecidableEq, Repr

structure TrustedPeer where
  localDeviceId : DeviceId
  peerFingerprint : IdentityFingerprint
  trustedAt : Int
  deriving DecidableEq, Repr

abbrev Members := Table DeviceId Member

abbrev TrustedPeers := Table DeviceId TrustedPeer

/-- `AdmitMemberUseCase`: a member that is there is replaced and keeps its
preferences. -/
def Members.admitMember (members : Members) (deviceId : DeviceId)
    (deviceName : String) (fingerprint : IdentityFingerprint) (now : Int) :
    Members :=
  members.put deviceId {
    deviceName := deviceName
    identityFingerprint := fingerprint
    joinedAt := now
    syncPreferences :=
      match members.find deviceId with
      | some existing => existing.syncPreferences
      | none => .default }

/-- `TrustPeerUseCase`: a record that is there is replaced. -/
def TrustedPeers.trustPeer (peers : TrustedPeers) (localDeviceId deviceId : DeviceId)
    (fingerprint : IdentityFingerprint) (now : Int) : TrustedPeers :=
  peers.put deviceId ⟨localDeviceId, fingerprint, now⟩

/-! ## The state -/

/-- An invitation that a session's request has consumed. -/
structure Consumption where
  invitation : PairingInvitation
  session : PairingSessionId
  request : JoinerRequest
  now : Int
  deriving DecidableEq, Repr

/-- A proof that was verified against the parked nonce. -/
structure Verification where
  session : PairingSessionId
  nonce : Digest
  proof : List UInt8
  verified : Bool
  deriving DecidableEq, Repr

/-- A record written for a session, and the fingerprint of the one it
replaced. -/
structure RecordWritten where
  session : PairingSessionId
  deviceId : DeviceId
  fingerprint : IdentityFingerprint
  replaced : Option IdentityFingerprint
  deriving DecidableEq, Repr

/-- What lives in the process, on the wire and in the repositories, and a
history: the invitations issued, every session accepted with its endpoint, what
was received, the sessions whose first message was handled, and what was
consumed, verified and recorded. -/
structure Sponsor where
  holder : InvitationHolder
  sessions : Table PairingSessionId SessionCtx
  slots : List PairingSessionId
  events : List PairingSessionEvent
  handling : Handling
  watchdogs : Table PairingSessionId Watchdog
  members : Members
  trustedPeers : TrustedPeers
  sent : List (PairingSessionId × PairingSessionMessage)
  issued : Nat
  accepted : Table PairingSessionId EndpointId
  received : List (PairingSessionId × PairingSessionMessage)
  begun : List PairingSessionId
  consumed : List Consumption
  verifications : List Verification
  admitted : List RecordWritten
  trusted : List RecordWritten

structure SponsorFacts where
  deviceName : String
  identityFingerprint : IdentityFingerprint
  transportAddressBlob : List UInt8
  spacePersonId : Option Uuid
  deriving DecidableEq, Repr

/-- The sponsor's device, and the space it is in with its master key. -/
structure SponsorEnv where
  deviceId : DeviceId
  spaceId : SpaceId
  masterKey : MasterKey
  crypto : KeyCrypto

def eventChannelCapacity : Nat := 32

/-! ## The proof -/

/-- A locked space verifies nothing. -/
def SponsorEnv.verifyProof (env : SponsorEnv) (unlocked : Bool)
    (ctx : SessionCtx) (proof : List UInt8) : Bool :=
  unlocked && decide (proof = computeHmac env.crypto ctx.coreSessionId
    ctx.spaceId ctx.challengeNonce env.masterKey)

/-! ## Actions -/

inductive SponsorAction where
  | issue (code : InvitationCode) (issuedAt expiresAt : Int)
  | cancelAll
  | accept (session : PairingSessionId) (remote : EndpointId)
      (message : PairingSessionMessage)
  | frame (session : PairingSessionId) (message : PairingSessionMessage)
  | hangUp (session : PairingSessionId)
  | takeEvent
  | matchInvitation (now : Option Int)
  | begin (status : Option (Option SpaceId)) (freshSpaceId : SpaceId)
      (offer : Except SpaceAccessError (List UInt8 × Digest))
  | sendOffer (fails : Bool)
  | unpark
  | armTimeout
  | verify (unlocked : Bool)
  | admitMember (now : Option Int) (failure : Option String)
  | trustPeer (failure : Option String)
  | confirm
  | sendConfirm (facts : Option SponsorFacts) (fails : Bool)
  | reject
  | sendReject (fails : Bool)
  | close
  | fireTimeout (session : PairingSessionId)
  | watchdogSend (session : PairingSessionId) (fails : Bool)
  | watchdogClose (session : PairingSessionId)
  deriving DecidableEq, Repr

namespace Sponsor

variable (env : SponsorEnv) (state : Sponsor)

/-- A sponsor that starts, with what its repositories hold. -/
def boot (members : Members) (trustedPeers : TrustedPeers) : Sponsor where
  holder := ∅
  sessions := ∅
  slots := []
  events := []
  handling := .idle
  watchdogs := ∅
  members := members
  trustedPeers := trustedPeers
  sent := []
  issued := 0
  accepted := ∅
  received := []
  begun := []
  consumed := []
  verifications := []
  admitted := []
  trusted := []

def hasRoom : Bool :=
  decide (state.events.length < eventChannelCapacity)

def issue (code : InvitationCode) (issuedAt expiresAt : Int) : Sponsor :=
  { state with
    issued := state.issued + 1
    holder := state.holder.put code
      ⟨state.issued, code, issuedAt, env.deviceId, .pending expiresAt⟩ }

/-- A connection whose first frame has arrived gets a new session. -/
def accept (session : PairingSessionId) (remote : EndpointId)
    (message : PairingSessionMessage) : Sponsor :=
  { state with
    slots := session :: state.slots
    accepted := state.accepted.put session remote
    received := state.received ++ [(session, message)]
    events := state.events ++ [.incoming session message] }

def frame (session : PairingSessionId) (message : PairingSessionMessage) :
    Sponsor :=
  { state with
    received := state.received ++ [(session, message)]
    events := state.events ++ [.messageReceived session message] }

def hangUp (session : PairingSessionId) : Sponsor :=
  { state with events := state.events ++ [.closed session] }

/-- Take a context out and abort its timer. -/
def dropCtx (session : PairingSessionId) : Sponsor :=
  match state.sessions.find session with
  | none => state
  | some ctx =>
      { state with
        sessions := state.sessions.remove session
        watchdogs :=
          if ctx.timerAbort then state.watchdogs.remove session
          else state.watchdogs }

def handle (event : PairingSessionEvent) (rest : List PairingSessionEvent) :
    Sponsor :=
  match event with
  | .incoming session (.request request) =>
      { state with
        events := rest
        begun := session :: state.begun
        handling := .matching session request }
  | .incoming session _ =>
      { state with
        events := rest
        begun := session :: state.begun
        handling := .rejecting session
          (.internal "expected Request as first pairing message") }
  | .messageReceived session (.challengeResponse response) =>
      match state.sessions.find session with
      | none => { state with events := rest }
      | some ctx =>
          { state with
            events := rest
            handling := .verifying session ctx response }
  | .messageReceived _ _ => { state with events := rest }
  | .closed session => { state with events := rest }.dropCtx session

def matchInvitation (session : PairingSessionId) (request : JoinerRequest)
    (now : Option Int) : Sponsor :=
  match now with
  | none =>
      { state with
        handling := .rejecting session (.internal "sponsor clock out of range") }
  | some now =>
      match state.holder.takeMatching request.invitationCode now with
      | (.ok invitation, holder) =>
          { state with
            holder := holder
            consumed := ⟨invitation, session, request, now⟩ :: state.consumed
            handling := .offering session request }
      | (.error (.internal message), holder) =>
          { state with
            holder := holder
            handling := .rejecting session (.internal message) }
      | (.error _, holder) =>
          { state with
            holder := holder
            handling := .rejecting session .invitationMismatch }

/-- Prepare the offer under the space id of the setup status, or a fresh one,
and park the context. -/
def begin (session : PairingSessionId) (request : JoinerRequest)
    (status : Option (Option SpaceId)) (freshSpaceId : SpaceId)
    (offer : Except SpaceAccessError (List UInt8 × Digest)) : Sponsor :=
  let spaceId := (status.getD none).getD freshSpaceId
  match offer with
  | .error error =>
      { state with
        handling := .sendingReject session
          (.internal ("prepare_join_offer: " ++ error.display)) }
  | .ok (keyslotBlob, nonce) =>
      { state with
        sessions := state.sessions.put session
          ⟨spaceId, nonce, session, request.facts, false⟩
        handling := .sendingOffer session
          ⟨spaceId, keyslotBlob, nonce.bytes, session⟩ }

/-- A message goes out if the slot is still there and the stream takes it. -/
def delivers (session : PairingSessionId) (fails : Bool) : Bool :=
  decide (session ∈ state.slots) && !fails

def send (session : PairingSessionId) (message : PairingSessionMessage)
    (fails : Bool) : Sponsor :=
  if state.delivers session fails then
    { state with sent := state.sent ++ [(session, message)] }
  else
    state

def sendOffer (session : PairingSessionId) (offer : SponsorKeyslotOffer)
    (fails : Bool) : Sponsor :=
  { state.send session (.keyslotOffer offer) fails with
    handling :=
      if state.delivers session fails then .arming session
      else .unparking session }

/-- Spawn the watchdog, and keep its handle if the context is still there. -/
def armTimeout (session : PairingSessionId) : Sponsor :=
  match state.sessions.find session with
  | none => { state with handling := .idle }
  | some ctx =>
      { state with
        sessions := state.sessions.put session { ctx with timerAbort := true }
        watchdogs := state.watchdogs.put session .sleeping
        handling := .idle }

def verify (unlocked : Bool) (session : PairingSessionId) (ctx : SessionCtx)
    (response : JoinerChallengeResponse) : Sponsor :=
  let verified := env.verifyProof unlocked ctx response.encryptedChallenge
  { state with
    verifications := ⟨session, ctx.challengeNonce, response.encryptedChallenge,
      verified⟩ :: state.verifications
    handling :=
      if verified then .admitting session ctx.joiner
      else .rejecting session .passphraseMismatch }

def admitMember (session : PairingSessionId) (facts : JoinerFacts)
    (now : Option Int) (failure : Option String) : Sponsor :=
  match now, failure with
  | none, _ =>
      { state with
        handling := .rejecting session (.internal "sponsor clock out of range") }
  | some _, some error =>
      { state with
        handling := .rejecting session (.internal ("admit_member: " ++ error)) }
  | some now, none =>
      { state with
        members := state.members.admitMember facts.deviceId facts.deviceName
          facts.identityFingerprint now
        admitted := ⟨session, facts.deviceId, facts.identityFingerprint,
          (state.members.find facts.deviceId).map
            Member.identityFingerprint⟩ :: state.admitted
        handling := .trusting session facts now }

def trustPeer (session : PairingSessionId) (facts : JoinerFacts) (now : Int)
    (failure : Option String) : Sponsor :=
  match failure with
  | some error =>
      { state with
        handling := .rejecting session (.internal ("trust_peer: " ++ error)) }
  | none =>
      { state with
        trustedPeers := state.trustedPeers.trustPeer env.deviceId facts.deviceId
          facts.identityFingerprint now
        trusted := ⟨session, facts.deviceId, facts.identityFingerprint,
          (state.trustedPeers.find facts.deviceId).map
            TrustedPeer.peerFingerprint⟩ :: state.trusted
        handling := .confirming session }

/-- Without its context a session is not confirmed, and not rejected either. -/
def confirm (session : PairingSessionId) : Sponsor :=
  match state.sessions.find session with
  | none => { state with handling := .idle }
  | some ctx =>
      { state.dropCtx session with handling := .sendingConfirm session ctx }

/-- Where the sponsor's facts cannot be read, or the stream does not take the
message, the session is left open. -/
def sendConfirm (session : PairingSessionId) (ctx : SessionCtx)
    (facts : Option SponsorFacts) (fails : Bool) : Sponsor :=
  match facts with
  | none => { state with handling := .idle }
  | some facts =>
      { state.send session (.confirm {
          spaceId := ctx.spaceId
          senderDeviceId := env.deviceId
          senderDeviceName := facts.deviceName
          senderIdentityFingerprint := facts.identityFingerprint
          transportAddressBlob := facts.transportAddressBlob
          sponsorSpacePersonId := facts.spacePersonId }) fails with
        handling :=
          if state.delivers session fails then .closing session else .idle }

def close (session : PairingSessionId) : Sponsor :=
  { state with slots := state.slots.filter fun slot => decide (slot ≠ session) }

/-- The watchdog takes the context of its session, if it is still there. -/
def fireTimeout (session : PairingSessionId) : Sponsor :=
  match state.sessions.find session with
  | none => { state with watchdogs := state.watchdogs.remove session }
  | some _ =>
      { state with
        sessions := state.sessions.remove session
        watchdogs := state.watchdogs.put session .firing }

def step (action : SponsorAction) : Option Sponsor :=
  match action, state.handling with
  | .issue code issuedAt expiresAt, _ =>
      some (state.issue env code issuedAt expiresAt)
  | .cancelAll, _ => some { state with holder := ∅ }
  | .accept session remote message, _ =>
      if state.accepted.find session = none ∧ state.hasRoom = true then
        some (state.accept session remote message)
      else
        none
  | .frame session message, _ =>
      if (state.accepted.find session).isSome ∧ state.hasRoom = true then
        some (state.frame session message)
      else
        none
  | .hangUp session, _ =>
      if (state.accepted.find session).isSome ∧ state.hasRoom = true then
        some (state.hangUp session)
      else
        none
  | .takeEvent, .idle =>
      match state.events with
      | [] => none
      | event :: rest => some (state.handle event rest)
  | .matchInvitation now, .matching session request =>
      some (state.matchInvitation session request now)
  | .begin status freshSpaceId offer, .offering session request =>
      some (state.begin session request status freshSpaceId offer)
  | .sendOffer fails, .sendingOffer session offer =>
      some (state.sendOffer session offer fails)
  | .unpark, .unparking session =>
      some { state.dropCtx session with handling := .closing session }
  | .armTimeout, .arming session => some (state.armTimeout session)
  | .verify unlocked, .verifying session ctx response =>
      some (state.verify env unlocked session ctx response)
  | .admitMember now failure, .admitting session facts =>
      some (state.admitMember session facts now failure)
  | .trustPeer failure, .trusting session facts now =>
      some (state.trustPeer env session facts now failure)
  | .confirm, .confirming session => some (state.confirm session)
  | .sendConfirm facts fails, .sendingConfirm session ctx =>
      some (state.sendConfirm env session ctx facts fails)
  | .reject, .rejecting session reason =>
      some { state.dropCtx session with
        handling := .sendingReject session reason }
  | .sendReject fails, .sendingReject session reason =>
      some { state.send session (.reject reason) fails with
        handling := .closing session }
  | .close, .closing session =>
      some { state.close session with handling := .idle }
  | .fireTimeout session, _ =>
      if state.watchdogs.find session = some .sleeping then
        some (state.fireTimeout session)
      else
        none
  | .watchdogSend session fails, _ =>
      if state.watchdogs.find session = some .firing then
        some { state.send session (.reject .timeout) fails with
          watchdogs := state.watchdogs.put session .closing }
      else
        none
  | .watchdogClose session, _ =>
      if state.watchdogs.find session = some .closing then
        some { state.close session with
          watchdogs := state.watchdogs.remove session }
      else
        none
  | _, _ => none

/-! ## What a step can be -/

inductive Stepped : SponsorAction → Sponsor → Prop
  | issue (code : InvitationCode) (issuedAt expiresAt : Int) :
      Stepped (.issue code issuedAt expiresAt)
        (state.issue env code issuedAt expiresAt)
  | cancelAll : Stepped .cancelAll { state with holder := ∅ }
  | accept (session : PairingSessionId) (remote : EndpointId)
      (message : PairingSessionMessage) :
      state.accepted.find session = none →
      Stepped (.accept session remote message)
        (state.accept session remote message)
  | frame (session : PairingSessionId) (message : PairingSessionMessage) :
      (state.accepted.find session).isSome = true →
      Stepped (.frame session message) (state.frame session message)
  | hangUp (session : PairingSessionId) :
      (state.accepted.find session).isSome = true →
      Stepped (.hangUp session) (state.hangUp session)
  | takeEvent (event : PairingSessionEvent) (rest : List PairingSessionEvent) :
      state.handling = .idle → state.events = event :: rest →
      Stepped .takeEvent (state.handle event rest)
  | matchInvitation (now : Option Int) (session : PairingSessionId)
      (request : JoinerRequest) :
      state.handling = .matching session request →
      Stepped (.matchInvitation now)
        (state.matchInvitation session request now)
  | begin (status : Option (Option SpaceId)) (freshSpaceId : SpaceId)
      (offer : Except SpaceAccessError (List UInt8 × Digest))
      (session : PairingSessionId) (request : JoinerRequest) :
      state.handling = .offering session request →
      Stepped (.begin status freshSpaceId offer)
        (state.begin session request status freshSpaceId offer)
  | sendOffer (fails : Bool) (session : PairingSessionId)
      (offer : SponsorKeyslotOffer) :
      state.handling = .sendingOffer session offer →
      Stepped (.sendOffer fails) (state.sendOffer session offer fails)
  | unpark (session : PairingSessionId) :
      state.handling = .unparking session →
      Stepped .unpark { state.dropCtx session with
        handling := .closing session }
  | armTimeout (session : PairingSessionId) :
      state.handling = .arming session →
      Stepped .armTimeout (state.armTimeout session)
  | verify (unlocked : Bool) (session : PairingSessionId) (ctx : SessionCtx)
      (response : JoinerChallengeResponse) :
      state.handling = .verifying session ctx response →
      Stepped (.verify unlocked)
        (state.verify env unlocked session ctx response)
  | admitMember (now : Option Int) (failure : Option String)
      (session : PairingSessionId) (facts : JoinerFacts) :
      state.handling = .admitting session facts →
      Stepped (.admitMember now failure) (state.admitMember session facts now failure)
  | trustPeer (failure : Option String) (session : PairingSessionId)
      (facts : JoinerFacts) (now : Int) :
      state.handling = .trusting session facts now →
      Stepped (.trustPeer failure) (state.trustPeer env session facts now failure)
  | confirm (session : PairingSessionId) :
      state.handling = .confirming session →
      Stepped .confirm (state.confirm session)
  | sendConfirm (facts : Option SponsorFacts) (fails : Bool)
      (session : PairingSessionId) (ctx : SessionCtx) :
      state.handling = .sendingConfirm session ctx →
      Stepped (.sendConfirm facts fails)
        (state.sendConfirm env session ctx facts fails)
  | reject (session : PairingSessionId) (reason : PairingRejectReason) :
      state.handling = .rejecting session reason →
      Stepped .reject { state.dropCtx session with
        handling := .sendingReject session reason }
  | sendReject (fails : Bool) (session : PairingSessionId)
      (reason : PairingRejectReason) :
      state.handling = .sendingReject session reason →
      Stepped (.sendReject fails)
        { state.send session (.reject reason) fails with
          handling := .closing session }
  | close (session : PairingSessionId) :
      state.handling = .closing session →
      Stepped .close { state.close session with handling := .idle }
  | fireTimeout (session : PairingSessionId) :
      state.watchdogs.find session = some .sleeping →
      Stepped (.fireTimeout session) (state.fireTimeout session)
  | watchdogSend (session : PairingSessionId) (fails : Bool) :
      state.watchdogs.find session = some .firing →
      Stepped (.watchdogSend session fails)
        { state.send session (.reject .timeout) fails with
          watchdogs := state.watchdogs.put session .closing }
  | watchdogClose (session : PairingSessionId) :
      state.watchdogs.find session = some .closing →
      Stepped (.watchdogClose session)
        { state.close session with
          watchdogs := state.watchdogs.remove session }

variable {env} {state} {next : Sponsor} {action : SponsorAction}

theorem stepped_of_step (ran : state.step env action = some next) :
    Stepped env state action next := by
  unfold step at ran
  split at ran
  case h_1 code issuedAt expiresAt =>
      cases ran
      exact .issue code issuedAt expiresAt
  case h_2 =>
      cases ran
      exact .cancelAll
  case h_3 session remote message =>
      split at ran
      · rename_i guard
        cases ran
        exact .accept session remote message guard.1
      · cases ran
  case h_4 session message =>
      split at ran
      · rename_i guard
        cases ran
        exact .frame session message guard.1
      · cases ran
  case h_5 session =>
      split at ran
      · rename_i guard
        cases ran
        exact .hangUp session guard.1
      · cases ran
  case h_6 handled =>
      split at ran
      · cases ran
      · rename_i event rest queued
        cases ran
        exact .takeEvent event rest handled queued
  case h_7 now session request handled =>
      cases ran
      exact .matchInvitation now session request handled
  case h_8 status freshSpaceId offer session request handled =>
      cases ran
      exact .begin status freshSpaceId offer session request handled
  case h_9 fails session offer handled =>
      cases ran
      exact .sendOffer fails session offer handled
  case h_10 session handled =>
      cases ran
      exact .unpark session handled
  case h_11 session handled =>
      cases ran
      exact .armTimeout session handled
  case h_12 unlocked session ctx response handled =>
      cases ran
      exact .verify unlocked session ctx response handled
  case h_13 now failure session facts handled =>
      cases ran
      exact .admitMember now failure session facts handled
  case h_14 failure session facts now handled =>
      cases ran
      exact .trustPeer failure session facts now handled
  case h_15 session handled =>
      cases ran
      exact .confirm session handled
  case h_16 facts fails session ctx handled =>
      cases ran
      exact .sendConfirm facts fails session ctx handled
  case h_17 session reason handled =>
      cases ran
      exact .reject session reason handled
  case h_18 fails session reason handled =>
      cases ran
      exact .sendReject fails session reason handled
  case h_19 session handled =>
      cases ran
      exact .close session handled
  case h_20 session =>
      split at ran
      · rename_i sleeping
        cases ran
        exact .fireTimeout session sleeping
      · cases ran
  case h_21 session fails =>
      split at ran
      · rename_i firing
        cases ran
        exact .watchdogSend session fails firing
      · cases ran
  case h_22 session =>
      split at ran
      · rename_i closing
        cases ran
        exact .watchdogClose session closing
      · cases ran
  case h_23 => cases ran

end Sponsor

end OpenClipboard.Pairing
