import OpenClipboard.Pairing.Agreement

/-!
# Identities and the channel

What sponsor and joiner record of each other is what the messages say.  It is
bound to the endpoints of the session as far as the messages are true of
them.
-/

namespace OpenClipboard.Pairing

open Transition

section Binding

variable (fingerprintOf : EndpointId → IdentityFingerprint)
  (owner : DeviceId → EndpointId)

/-- The request names the endpoint that sent it, and a device of its own. -/
def TruthfulRequest (remote : EndpointId) (request : JoinerRequest) : Prop :=
  request.identityFingerprint = fingerprintOf remote ∧
    owner request.deviceId = remote

/-- Peers open their sessions with truthful requests. -/
def Truthful (_ : Sponsor) : SponsorAction → Prop
  | .accept _ remote (.request request) =>
      TruthfulRequest fingerprintOf owner remote request
  | _ => True

/-- The fingerprint of every member is that of its device's endpoint. -/
def MembersBound (members : Members) : Prop :=
  ∀ deviceId member, members.find deviceId = some member →
    member.identityFingerprint = fingerprintOf (owner deviceId)

def PeersBound (trustedPeers : TrustedPeers) : Prop :=
  ∀ deviceId peer, trustedPeers.find deviceId = some peer →
    peer.peerFingerprint = fingerprintOf (owner deviceId)

/-- A record is of the endpoint that ran the session, and so is the one it
replaced. -/
def BoundTo (remote : EndpointId) (record : RecordWritten) : Prop :=
  record.fingerprint = fingerprintOf remote ∧
    ∀ old, record.replaced = some old → old = fingerprintOf remote

/-- What the sponsor recorded is bound to the endpoints of its sessions. -/
def SponsorBinds (state : Sponsor) : Prop :=
  ∀ record ∈ state.admitted ++ state.trusted,
    ∃ remote, state.accepted.find record.session = some remote ∧
      BoundTo fingerprintOf remote record

/-- The confirmation names the endpoint that was dialled, a device of its own,
and the space of the offer. -/
def TruthfulConfirm (dialled : EndpointId) (run : JoinerRun) : Prop :=
  ∀ offer confirm, run.firstReply = .message (.keyslotOffer offer) →
    run.secondReply = .message (.confirm confirm) →
      confirm.senderIdentityFingerprint = fingerprintOf dialled ∧
        owner confirm.senderDeviceId = dialled ∧
        confirm.spaceId = offer.spaceId

/-- What the joiner recorded is bound to the endpoint it dialled, and the space
it adopted is that of the offer. -/
structure JoinerBinds (dialled : EndpointId) (run : JoinerRun)
    (before after : JoinerDevice) : Prop where
  members : ∀ deviceId member, after.members.find deviceId = some member →
    before.members.find deviceId = some member ∨
      (member.identityFingerprint = fingerprintOf dialled ∧
        ∀ old, before.members.find deviceId = some old →
          old.identityFingerprint = fingerprintOf dialled)
  trustedPeers : ∀ deviceId peer,
    after.trustedPeers.find deviceId = some peer →
      before.trustedPeers.find deviceId = some peer ∨
        (peer.peerFingerprint = fingerprintOf dialled ∧
          ∀ old, before.trustedPeers.find deviceId = some old →
            old.peerFingerprint = fingerprintOf dialled)
  space : after.setupStatus = before.setupStatus ∨
    ∃ offer, run.firstReply = .message (.keyslotOffer offer) ∧
      after.setupStatus.spaceId = some offer.spaceId

namespace Sponsor

/-- The first message of a session that was accepted is truthful. -/
def Attributed (state : Sponsor) : Prop :=
  ∀ session remote, state.accepted.find session = some remote →
    ∃ first rest, messagesOf session state.received = first :: rest ∧
      ∀ request, first = .request request →
        TruthfulRequest fingerprintOf owner remote request

structure Bound (state : Sponsor) : Prop where
  members : MembersBound fingerprintOf owner state.members
  trustedPeers : PeersBound fingerprintOf owner state.trustedPeers
  binds : SponsorBinds fingerprintOf state

variable {fingerprintOf owner} {env : SponsorEnv} {state next : Sponsor}
  {action : SponsorAction}

theorem attributed_step (queued : state.Queued)
    (attributed : state.Attributed fingerprintOf owner)
    (truthful : Truthful fingerprintOf owner state action)
    (ran : state.step env action = some next) :
    next.Attributed fingerprintOf owner := by
  rcases queue_of_stepped (stepped_of_step ran) with
    same | ⟨session, remote, message, isAction, isNew, isNext⟩ |
    ⟨session, message, known, isNext⟩ | ⟨session, isNext⟩ |
    ⟨event, rest, due, isNext⟩
  · intro session remote accepted
    rw [same.2.2.2] at accepted
    rw [same.2.1]
    exact attributed session remote accepted
  · subst isAction isNext
    intro other endpoint accepted
    by_cases same : other = session
    · subst same
      have isRemote : (state.accepted.put other remote).find other =
          some endpoint := accepted
      rw [Table.find_put_self] at isRemote
      cases isRemote
      refine ⟨message, [], ?_, ?_⟩
      · simp only [accept]
        rw [messagesOf_append, (queued.unknown other isNew).2, messagesOf_self]
        rfl
      · intro request isRequest
        subst isRequest
        exact truthful
    · have before : state.accepted.find other = some endpoint := by
        rw [← accepted]
        exact (Table.find_put_of_ne same).symm
      obtain ⟨first, rest, received, isTrue⟩ := attributed other endpoint before
      refine ⟨first, rest, ?_, isTrue⟩
      simp only [accept]
      rw [messagesOf_append, received, messagesOf_other same, List.append_nil]
  · subst isNext
    intro other remote accepted
    obtain ⟨first, rest, received, isTrue⟩ := attributed other remote accepted
    refine ⟨first, rest ++ messagesOf other [(session, message)], ?_, isTrue⟩
    simp only [frame]
    rw [messagesOf_append, received]
    rfl
  · subst isNext
    exact attributed
  · subst isNext
    obtain ⟨_, received, accepted, _⟩ :
        (state.handle event rest).events = rest ∧ _ :=
      handle_queue event rest
    intro session remote isAccepted
    rw [accepted] at isAccepted
    rw [received]
    exact attributed session remote isAccepted

def SameRecords (before after : Sponsor) : Prop :=
  after.members = before.members ∧
    after.trustedPeers = before.trustedPeers ∧
    after.admitted = before.admitted ∧ after.trusted = before.trusted

theorem SessionsOnly.records (only : SessionsOnly state next) :
    SameRecords state next := by
  unfold SessionsOnly at only
  refine ⟨?_, ?_, ?_, ?_⟩ <;> rw [only]

theorem records_of_stepped (stepped : Stepped env state action next) :
    SameRecords state next ∨
      (∃ session facts now failure,
        state.handling = .admitting session facts ∧
          next = state.admitMember session facts now failure) ∨
      ∃ session facts now failure,
        state.handling = .trusting session facts now ∧
          next = state.trustPeer env session facts now failure := by
  have goes := sessionsOnly_of_stepped stepped
  cases stepped with
  | admitMember now failure session facts handled =>
      exact Or.inr (Or.inl ⟨session, facts, now, failure, handled, rfl⟩)
  | trustPeer failure session facts now handled =>
      exact Or.inr (Or.inr ⟨session, facts, now, failure, handled, rfl⟩)
  | takeEvent event rest idle due =>
      exact Or.inl (sessionsOnly_handle event rest).records
  | matchInvitation now session request handled =>
      apply Or.inl
      unfold matchInvitation
      split
      · exact ⟨rfl, rfl, rfl, rfl⟩
      · split
        · exact ⟨rfl, rfl, rfl, rfl⟩
        · exact ⟨rfl, rfl, rfl, rfl⟩
        · exact ⟨rfl, rfl, rfl, rfl⟩
  | issue code issuedAt expiresAt => exact Or.inl ⟨rfl, rfl, rfl, rfl⟩
  | cancelAll => exact Or.inl ⟨rfl, rfl, rfl, rfl⟩
  | accept session remote message isNew =>
      exact Or.inl ⟨rfl, rfl, rfl, rfl⟩
  | frame session message known => exact Or.inl ⟨rfl, rfl, rfl, rfl⟩
  | hangUp session known => exact Or.inl ⟨rfl, rfl, rfl, rfl⟩
  | _ => exact Or.inl (goes rfl).records

theorem accepted_step {session : PairingSessionId} {remote : EndpointId}
    (ran : state.step env action = some next)
    (accepted : state.accepted.find session = some remote) :
    next.accepted.find session = some remote := by
  rcases queue_of_stepped (stepped_of_step ran) with
    same | ⟨other, endpoint, message, _, isNew, isNext⟩ |
    ⟨other, message, known, isNext⟩ | ⟨other, isNext⟩ |
    ⟨event, rest, due, isNext⟩
  · rw [same.2.2.2]
    exact accepted
  · have different : session ≠ other := by
      intro same
      rw [same, isNew] at accepted
      cases accepted
    rw [isNext, ← accepted]
    exact Table.find_put_of_ne different
  · rw [isNext]
    exact accepted
  · rw [isNext]
    exact accepted
  · obtain ⟨_, _, sameTable, _⟩ :
        (state.handle event rest).events = rest ∧ _ :=
      handle_queue event rest
    rw [isNext, sameTable]
    exact accepted

/-- What a member is admitted by, and a peer trusted by, is the truthful
request of its session. -/
theorem truthful_of_ledger {session : PairingSessionId} {facts : JoinerFacts}
    {ctx : SessionCtx} {admitted trusted : List RecordWritten}
    (queued : state.Queued) (attributed : state.Attributed fingerprintOf owner)
    (sound : (state.view session).Sound env False session)
    (verified : (state.view session).Verified env session ctx admitted trusted)
    (joiner : ctx.joiner = facts) :
    ∃ remote, state.accepted.find session = some remote ∧
      facts.identityFingerprint = fingerprintOf remote ∧
      owner facts.deviceId = remote := by
  obtain ⟨consumption, offer, verification, noted, proven, _⟩ := verified
  have first : (messagesOf session state.received).head? =
      some (.request consumption.request) :=
    sound.first noted
  cases accepted : state.accepted.find session with
  | none =>
      rw [(queued.unknown session accepted).2] at first
      cases first
  | some remote =>
      obtain ⟨message, rest, received, isTrue⟩ :=
        attributed session remote accepted
      rw [received] at first
      have isRequest : message = .request consumption.request :=
        Option.some.inj first
      have truthful := isTrue _ isRequest
      refine ⟨remote, rfl, ?_⟩
      rw [← joiner, proven.fits.joiner]
      exact truthful

theorem bound_admitMember {session : PairingSessionId} {facts : JoinerFacts}
    {now : Option Int} {failure : Option String} {remote : EndpointId}
    (bound : state.Bound fingerprintOf owner)
    (accepted : state.accepted.find session = some remote)
    (fingerprint : facts.identityFingerprint = fingerprintOf remote)
    (device : owner facts.deviceId = remote) :
    (state.admitMember session facts now failure).Bound fingerprintOf
      owner := by
  unfold admitMember
  split
  · exact ⟨bound.members, bound.trustedPeers, bound.binds⟩
  · exact ⟨bound.members, bound.trustedPeers, bound.binds⟩
  · refine ⟨?_, bound.trustedPeers, ?_⟩
    · intro deviceId member found
      simp only [Members.admitMember] at found
      rw [Table.find_put] at found
      by_cases same : deviceId = facts.deviceId
      · rw [if_pos same] at found
        cases found
        rw [same, device]
        exact fingerprint
      · rw [if_neg same] at found
        exact bound.members deviceId member found
    · intro record isRecord
      rw [List.cons_append] at isRecord
      cases List.mem_cons.mp isRecord with
      | inl isNew =>
          subst isNew
          refine ⟨remote, accepted, fingerprint, ?_⟩
          intro old replaced
          obtain ⟨member, found, same⟩ := Option.map_eq_some_iff.mp replaced
          rw [← same, bound.members _ member found, device]
      | inr isOld => exact bound.binds record isOld

theorem bound_trustPeer {session : PairingSessionId} {facts : JoinerFacts}
    {now : Int} {failure : Option String} {remote : EndpointId}
    (bound : state.Bound fingerprintOf owner)
    (accepted : state.accepted.find session = some remote)
    (fingerprint : facts.identityFingerprint = fingerprintOf remote)
    (device : owner facts.deviceId = remote) :
    (state.trustPeer env session facts now failure).Bound fingerprintOf
      owner := by
  cases failure with
  | some error => exact ⟨bound.members, bound.trustedPeers, bound.binds⟩
  | none =>
      refine ⟨bound.members, ?_, ?_⟩
      · intro deviceId peer found
        simp only [trustPeer, TrustedPeers.trustPeer] at found
        rw [Table.find_put] at found
        by_cases same : deviceId = facts.deviceId
        · rw [if_pos same] at found
          cases found
          rw [same, device]
          exact fingerprint
        · rw [if_neg same] at found
          exact bound.trustedPeers deviceId peer found
      · intro record isRecord
        rcases List.mem_append.mp isRecord with isMember | isPeer
        · exact bound.binds record (List.mem_append_left _ isMember)
        · cases List.mem_cons.mp isPeer with
          | inl isNew =>
              subst isNew
              refine ⟨remote, accepted, fingerprint, ?_⟩
              intro old replaced
              obtain ⟨peer, found, same⟩ := Option.map_eq_some_iff.mp replaced
              rw [← same, bound.trustedPeers _ peer found, device]
          | inr isOld =>
              exact bound.binds record (List.mem_append_right _ isOld)

theorem bound_step (queued : state.Queued)
    (attributed : state.Attributed fingerprintOf owner)
    (outlined : ∀ session,
      (state.view session).Outlined env False session)
    (bound : state.Bound fingerprintOf owner)
    (ran : state.step env action = some next) :
    next.Bound fingerprintOf owner := by
  rcases records_of_stepped (stepped_of_step ran) with
    same | ⟨session, facts, now, failure, handled, isNext⟩ |
    ⟨session, facts, now, failure, handled, isNext⟩
  · obtain ⟨members, trustedPeers, admitted, trusted⟩ := same
    constructor
    · rw [members]
      exact bound.members
    · rw [trustedPeers]
      exact bound.trustedPeers
    · intro record isRecord
      rw [admitted, trusted] at isRecord
      obtain ⟨remote, accepted, isBound⟩ := bound.binds record isRecord
      exact ⟨remote, accepted_step ran accepted, isBound⟩
  · have atSession : (state.view session).handling =
        some (.admitting session facts) := by
      rw [view_handling (by rw [handled]; rfl), handled]
    have known := (outlined session).outline
    simp only [SessionView.Outline, atSession] at known
    obtain ⟨ctx, joiner, verified⟩ := known
    obtain ⟨remote, accepted, fingerprint, device⟩ :=
      truthful_of_ledger queued attributed (outlined session).sound verified
        joiner
    subst isNext
    exact bound_admitMember bound accepted fingerprint device
  · have atSession : (state.view session).handling =
        some (.trusting session facts now) := by
      rw [view_handling (by rw [handled]; rfl), handled]
    have known := (outlined session).outline
    simp only [SessionView.Outline, atSession] at known
    obtain ⟨ctx, member, joiner, verified⟩ := known
    obtain ⟨remote, accepted, fingerprint, device⟩ :=
      truthful_of_ledger queued attributed (outlined session).sound verified
        joiner
    subst isNext
    exact bound_trustPeer bound accepted fingerprint device

theorem bound_run {members : Members} {trustedPeers : TrustedPeers}
    (membersBound : MembersBound fingerprintOf owner members)
    (peersBound : PeersBound fingerprintOf owner trustedPeers)
    (run : Run (step env) (Truthful fingerprintOf owner)
      (boot members trustedPeers) state) :
    state.Bound fingerprintOf owner := by
  have all : state.Queued ∧ state.Attributed fingerprintOf owner ∧
      (∀ session, (state.view session).Outlined env False session) ∧
      state.Bound fingerprintOf owner := by
    apply run.preserves
    · refine ⟨queued_boot, ?_, outlined_boot False, membersBound, peersBound,
        ?_⟩
      · intro session remote accepted
        cases accepted
      · intro record isRecord
        cases isRecord
    · intro before action after invariant truthful ran
      obtain ⟨queued, attributed, outlined, bound⟩ := invariant
      refine ⟨queued_step queued ran,
        attributed_step queued attributed truthful ran, ?_,
        bound_step queued attributed outlined bound ran⟩
      intro session
      have seen : Seen env False session before after :=
        seen_of_stepped queued (fun impossible => impossible.elim)
          (stepped_of_step ran)
      rcases seen with same | step
      · rw [same]
        exact outlined session
      · exact SessionView.outlined_step (outlined session) step
  exact all.2.2.2

end Sponsor

namespace RedeemRun

variable {fingerprintOf owner} {crypto : KeyCrypto} {run : RedeemRun}
  {device : JoinerDevice} {outcome : JoinerHandshakeOutcome}
  {dialled : EndpointId}

theorem members_persisted (members : Members) (now : Int)
    (deviceName : String)
    (membersBound : MembersBound fingerprintOf owner members)
    (fingerprint : outcome.sponsorIdentityFingerprint = fingerprintOf dialled)
    (owned : owner outcome.sponsorDeviceId = dialled) :
    ∀ deviceId member, (members.admitMember outcome.sponsorDeviceId deviceName
      outcome.sponsorIdentityFingerprint now).find deviceId = some member →
      members.find deviceId = some member ∨
        (member.identityFingerprint = fingerprintOf dialled ∧
          ∀ old, members.find deviceId = some old →
            old.identityFingerprint = fingerprintOf dialled) := by
  intro deviceId member found
  simp only [Members.admitMember] at found
  rw [Table.find_put] at found
  by_cases same : deviceId = outcome.sponsorDeviceId
  · rw [if_pos same] at found
    cases found
    refine Or.inr ⟨fingerprint, ?_⟩
    intro old was
    rw [membersBound deviceId old was, same, owned]
  · rw [if_neg same] at found
    exact Or.inl found

theorem trustedPeers_persisted (trustedPeers : TrustedPeers) (now : Int)
    (localDeviceId : DeviceId)
    (peersBound : PeersBound fingerprintOf owner trustedPeers)
    (fingerprint : outcome.sponsorIdentityFingerprint = fingerprintOf dialled)
    (owned : owner outcome.sponsorDeviceId = dialled) :
    ∀ deviceId peer, (trustedPeers.trustPeer localDeviceId
      outcome.sponsorDeviceId outcome.sponsorIdentityFingerprint
      now).find deviceId = some peer →
      trustedPeers.find deviceId = some peer ∨
        (peer.peerFingerprint = fingerprintOf dialled ∧
          ∀ old, trustedPeers.find deviceId = some old →
            old.peerFingerprint = fingerprintOf dialled) := by
  intro deviceId peer found
  simp only [TrustedPeers.trustPeer] at found
  rw [Table.find_put] at found
  by_cases same : deviceId = outcome.sponsorDeviceId
  · rw [if_pos same] at found
    cases found
    refine Or.inr ⟨fingerprint, ?_⟩
    intro old was
    rw [peersBound deviceId old was, same, owned]
  · rw [if_neg same] at found
    exact Or.inl found

theorem joinerBinds_of_truthful
    (membersBound : MembersBound fingerprintOf owner device.members)
    (peersBound : PeersBound fingerprintOf owner device.trustedPeers)
    (truthful : TruthfulConfirm fingerprintOf owner dialled run.handshake) :
    JoinerBinds fingerprintOf dialled run.handshake device
      (run.execute crypto device).2 := by
  unfold execute
  split
  · exact ⟨fun _ _ found => Or.inl found, fun _ _ found => Or.inl found,
      Or.inl rfl⟩
  · exact ⟨fun _ _ found => Or.inl found, fun _ _ found => Or.inl found,
      Or.inl rfl⟩
  · rename_i outcome keysNow shaken
    obtain ⟨facts, offer, nonce, masterKey, confirm, went⟩ :=
      JoinerRun.handshake_eq_ok shaken
    obtain ⟨fingerprint, owned, space⟩ :=
      truthful offer confirm went.offered went.confirmed
    have sameFingerprint : outcome.sponsorIdentityFingerprint =
        fingerprintOf dialled := by
      rw [went.outcome_eq]
      exact fingerprint
    have sameOwner : owner outcome.sponsorDeviceId = dialled := by
      rw [went.outcome_eq]
      exact owned
    have sameSpace : outcome.spaceId = offer.spaceId := by
      rw [went.outcome_eq]
      exact space
    unfold persist
    split
    · exact ⟨fun _ _ found => Or.inl found, fun _ _ found => Or.inl found,
        Or.inl rfl⟩
    · rename_i now _
      split
      · exact ⟨fun _ _ found => Or.inl found, fun _ _ found => Or.inl found,
          Or.inl rfl⟩
      · have members := members_persisted device.members now
          outcome.sponsorDeviceName membersBound sameFingerprint sameOwner
        dsimp only
        split
        · exact ⟨members, fun _ _ found => Or.inl found, Or.inl rfl⟩
        · have trustedPeers := trustedPeers_persisted device.trustedPeers now
            outcome.selfDeviceId peersBound sameFingerprint sameOwner
          split
          · exact ⟨members, trustedPeers, Or.inl rfl⟩
          · refine ⟨members, trustedPeers, Or.inr ⟨offer, went.offered, ?_⟩⟩
            exact congrArg some sameSpace

end RedeemRun

end Binding

/-- Where the peers' messages are true of their endpoints, both sides record
the endpoints they spoke with, replace no other's records, and agree on the
space offered. -/
theorem pairing_binds_of_truthful
    (fingerprintOf : EndpointId → IdentityFingerprint)
    (owner : DeviceId → EndpointId) :
    (∀ (env : SponsorEnv) (members : Members) (trustedPeers : TrustedPeers)
      (state : Sponsor), MembersBound fingerprintOf owner members →
      PeersBound fingerprintOf owner trustedPeers →
      Run (Sponsor.step env) (Truthful fingerprintOf owner)
        (Sponsor.boot members trustedPeers) state →
        SponsorBinds fingerprintOf state) ∧
    ∀ (crypto : KeyCrypto) (run : RedeemRun) (device : JoinerDevice)
      (dialled : EndpointId),
      MembersBound fingerprintOf owner device.members →
      PeersBound fingerprintOf owner device.trustedPeers →
      TruthfulConfirm fingerprintOf owner dialled run.handshake →
        JoinerBinds fingerprintOf dialled run.handshake device
          (run.execute crypto device).2 := by
  constructor
  · intro env members trustedPeers state membersBound peersBound run
    exact (Sponsor.bound_run membersBound peersBound run).binds
  · intro crypto run device dialled membersBound peersBound truthful
    exact RedeemRun.joinerBinds_of_truthful membersBound peersBound truthful

instance (fingerprintOf : EndpointId → IdentityFingerprint)
    (owner : DeviceId → EndpointId) (state : Sponsor) (action : SponsorAction) :
    Decidable (Truthful fingerprintOf owner state action) := by
  unfold Truthful
  split
  · exact inferInstanceAs (Decidable (_ ∧ _))
  · exact inferInstanceAs (Decidable True)

namespace Sponsor.Sample

def guestKey : EndpointId := ⟨"guest key"⟩

def hostKey : EndpointId := ⟨"host key"⟩

def fingerprintOf (endpoint : EndpointId) : IdentityFingerprint :=
  if endpoint = guestKey then request.identityFingerprint
  else facts.identityFingerprint

def owner (deviceId : DeviceId) : EndpointId :=
  if deviceId = request.deviceId then guestKey else hostKey

end Sponsor.Sample

open Sponsor.Sample in
theorem pairing_binds_of_truthful_paired :
    SponsorBinds fingerprintOf paired ∧
      JoinerBinds fingerprintOf hostKey redeem.handshake joiner
        (redeem.execute env.crypto joiner).2 := by
  obtain ⟨sponsor, joinerSide⟩ := pairing_binds_of_truthful fingerprintOf owner
  have truthful : Guarded (Sponsor.step env) (Truthful fingerprintOf owner)
      (Sponsor.boot ∅ ∅) pairing := by
    decide +kernel
  constructor
  · apply sponsor env ∅ ∅ paired
    · intro deviceId member found
      cases found
    · intro deviceId peer found
      cases found
    · exact Run.ofExecute truthful paired_executed
  · apply joinerSide
    · intro deviceId member found
      cases found
    · intro deviceId peer found
      cases found
    · intro offer confirm isOffer isConfirm
      cases isOffer
      cases isConfirm
      decide +kernel

open Sponsor.Sample in
/-- A peer whose key has another fingerprint is trusted under the one it
claims. -/
theorem claimedFingerprint_isTrusted :
    ¬ ((∀ (fingerprintOf : EndpointId → IdentityFingerprint)
        (env : SponsorEnv) (members : Members) (trustedPeers : TrustedPeers)
        (state : Sponsor),
        Run (Sponsor.step env) anyAction
          (Sponsor.boot members trustedPeers) state →
          SponsorBinds fingerprintOf state) ∧
      ∀ (fingerprintOf : EndpointId → IdentityFingerprint)
        (crypto : KeyCrypto) (run : RedeemRun) (device : JoinerDevice)
        (dialled : EndpointId),
        JoinerBinds fingerprintOf dialled run.handshake device
          (run.execute crypto device).2) := by
  rintro ⟨sponsor, joinerSide⟩
  have binds := sponsor (fun _ => facts.identityFingerprint) env ∅ ∅ paired
    (Run.ofExecute (guarded_anyAction _ _ _) paired_executed)
  have claimed : paired.trusted.map RecordWritten.fingerprint =
      [request.identityFingerprint] := by
    decide +kernel
  have isTrusted : request.identityFingerprint ∈
      paired.trusted.map RecordWritten.fingerprint := by
    rw [claimed]
    exact List.mem_cons_self
  obtain ⟨record, isRecord, fingerprint⟩ := List.mem_map.mp isTrusted
  obtain ⟨remote, accepted, isBound⟩ :=
    binds record (List.mem_append_right _ isRecord)
  have same := isBound.1
  rw [fingerprint] at same
  have different : request.identityFingerprint ≠ facts.identityFingerprint := by
    decide +kernel
  exact absurd same different

end OpenClipboard.Pairing
