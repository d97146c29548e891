import OpenClipboard.Pairing.OneGuess
import OpenClipboard.Pairing.Redeem

/-!
# Agreement of joiner and sponsor

While no watchdog fires during the handling of its session, and a member is
always trusted too, a session ends with one confirmation or one rejection, a
rejection means that nothing was recorded, and a joiner that succeeds agrees
with the sponsor on who it is, on the space and on the master key.
-/

namespace OpenClipboard.Pairing

open Transition

/-- The messages that end a session. -/
def isTerminal : PairingSessionMessage → Bool
  | .confirm _ => true
  | .reject _ => true
  | _ => false

namespace SessionView

def terminals (view : SessionView) : List PairingSessionMessage :=
  view.sent.filter isTerminal

/-- Nothing more is sent. -/
structure Over (view : SessionView) : Prop where
  begun : view.begun = true
  absent : view.ctx = none
  calm : view.watchdog ≠ some .firing
  away : view.handling = none ∨
    ∃ session, view.handling = some (.closing session)

/-- How a session ends: with the watchdog alone, or with the event loop
alone. -/
structure Concluded (view : SessionView) : Prop where
  vigil : view.watchdog = some .firing →
    view.begun = true ∧ view.handling = none ∧ view.ctx = none ∧
      view.admitted = [] ∧ view.trusted = []
  clean : ∀ session reason,
    (view.handling = some (.rejecting session reason) ∨
      view.handling = some (.sendingReject session reason)) →
      view.admitted = [] ∧ view.trusted = []
  ends : view.terminals = [] ∨
    ∃ message, view.terminals = [message] ∧ view.Over ∧
      ∀ reason, message = .reject reason →
        view.admitted = [] ∧ view.trusted = []

section Concluded

variable {env : SponsorEnv} {session : PairingSessionId}
  {view after : SessionView}

theorem withoutCtx_watchdog {watchdog : Watchdog}
    (there : view.withoutCtx.watchdog = some watchdog) :
    view.watchdog = some watchdog := by
  unfold withoutCtx at there
  split at there
  · exact there
  · rename_i ctx parked
    simp only [disarmed] at there
    split at there
    · cases there
    · exact there

theorem withoutCtx_of_absent (absent : view.ctx = none) :
    view.withoutCtx = view := by
  unfold withoutCtx
  rw [absent]

theorem records_withoutCtx :
    view.withoutCtx.admitted = view.admitted ∧
      view.withoutCtx.trusted = view.trusted := by
  unfold withoutCtx
  split
  · exact ⟨rfl, rfl⟩
  · exact ⟨rfl, rfl⟩

theorem records_withSent {message : PairingSessionMessage}
    {delivered : Bool} :
    (view.withSent message delivered).admitted = view.admitted ∧
      (view.withSent message delivered).trusted = view.trusted ∧
      (view.withSent message delivered).watchdog = view.watchdog := by
  cases delivered with
  | false => exact ⟨rfl, rfl, rfl⟩
  | true => exact ⟨rfl, rfl, rfl⟩

theorem Concluded.calm {place : Handling} (was : view.Concluded)
    (handled : view.handling = some place) :
    view.watchdog ≠ some .firing := by
  intro firing
  have impossible := (was.vigil firing).2.1
  rw [handled] at impossible
  cases impossible

theorem Outlined.unrecorded {ctx : SessionCtx}
    (outlined : view.Outlined env True session)
    (idle : view.handling = none) (parked : view.ctx = some ctx) :
    view.begun = true ∧ view.admitted = [] ∧ view.trusted = [] := by
  have known := outlined.outline
  simp only [Outline, idle] at known
  obtain ⟨consumption, offer, noted, fits⟩ := known ctx parked
  refine ⟨?_, noted.admitted_eq, noted.trusted_eq⟩
  cases begun : view.begun with
  | true => rfl
  | false =>
      have absent := (outlined.unbegun begun).2.1
      rw [parked] at absent
      cases absent

/-- A watchdog that fires finds the session waiting, and it waits no more. -/
theorem vigil_step (outlined : view.Outlined env True session)
    (was : view.Concluded) (step : Step env True session view after)
    (firing : after.watchdog = some .firing) :
    after.begun = true ∧ after.handling = none ∧ after.ctx = none ∧
      after.admitted = [] ∧ after.trusted = [] := by
  cases step with
  | hear message => exact was.vigil firing
  | opened message handling notBegun first opens =>
      have begun := (was.vigil firing).1
      rw [notBegun] at begun
      cases begun
  | consume request invitation now handled =>
      exact absurd firing (was.calm handled)
  | mismatch request reason handled => exact absurd firing (was.calm handled)
  | offer request spaceId blob nonce handled own =>
      exact absurd firing (was.calm handled)
  | offerFails request reason handled => exact absurd firing (was.calm handled)
  | offerSent offer handled => exact absurd firing (was.calm handled)
  | offerLost offer handled => exact absurd firing (was.calm handled)
  | unpark handled =>
      exact absurd (withoutCtx_watchdog firing) (was.calm handled)
  | armNothing handled absent => exact absurd firing (was.calm handled)
  | arm ctx handled parked => cases firing
  | respond ctx response idle parked heard =>
      have absent := (was.vigil firing).2.2.1
      rw [parked] at absent
      cases absent
  | closed idle =>
      have fires := withoutCtx_watchdog firing
      rw [withoutCtx_of_absent (was.vigil fires).2.2.1]
      exact was.vigil fires
  | verify unlocked ctx response handled =>
      exact absurd firing (was.calm handled)
  | admitMember facts now replaced handled =>
      exact absurd firing (was.calm handled)
  | admitFails facts reason handled => exact absurd firing (was.calm handled)
  | trustPeer facts now replaced handled =>
      exact absurd firing (was.calm handled)
  | trustFails facts now reason unpunctual handled =>
      exact absurd firing (was.calm handled)
  | confirmNothing handled absent => exact absurd firing (was.calm handled)
  | confirm ctx handled parked =>
      exact absurd (withoutCtx_watchdog firing) (was.calm handled)
  | confirmSent ctx confirm handled sameSpace sameDevice =>
      exact absurd firing (was.calm handled)
  | confirmLost ctx handled => exact absurd firing (was.calm handled)
  | reject reason handled =>
      exact absurd (withoutCtx_watchdog firing) (was.calm handled)
  | sendReject reason delivered handled =>
      have fires : view.watchdog = some .firing :=
        records_withSent.2.2.symm.trans firing
      exact absurd fires (was.calm handled)
  | close handled => exact absurd firing (was.calm handled)
  | wakeLate asleep absent => cases firing
  | fire ctx asleep parked away =>
      have idle := away trivial
      obtain ⟨begun, admitted, trusted⟩ := outlined.unrecorded idle parked
      exact ⟨begun, idle, rfl, admitted, trusted⟩
  | watchdogSend delivered fires => cases firing
  | watchdogClose closing => cases firing

theorem clean_step (outlined : view.Outlined env True session)
    (was : view.Concluded) (step : Step env True session view after)
    {other : PairingSessionId} {reason : PairingRejectReason}
    (rejects : after.handling = some (.rejecting other reason) ∨
      after.handling = some (.sendingReject other reason)) :
    after.admitted = [] ∧ after.trusted = [] := by
  have known := outlined.outline
  cases step with
  | hear message => exact was.clean other reason rejects
  | opened message handling notBegun first opens =>
      obtain ⟨_, _, noted⟩ := outlined.unbegun notBegun
      exact ⟨noted.admitted_eq, noted.trusted_eq⟩
  | mismatch request why handled =>
      simp only [Outline, handled] at known
      exact ⟨known.2.1.admitted_eq, known.2.1.trusted_eq⟩
  | offerFails request why handled =>
      simp only [Outline, handled] at known
      obtain ⟨_, consumption, _, noted⟩ := known
      exact ⟨noted.admitted_eq, noted.trusted_eq⟩
  | closed idle =>
      rw [withoutCtx_handling, idle] at rejects
      cases rejects with
      | inl impossible => cases impossible
      | inr impossible => cases impossible
  | verify unlocked ctx response handled =>
      simp only [Outline, handled] at known
      obtain ⟨⟨consumption, offer, noted, _⟩, _⟩ := known
      exact ⟨noted.admitted_eq, noted.trusted_eq⟩
  | admitFails facts why handled =>
      simp only [Outline, handled] at known
      obtain ⟨ctx, _, consumption, offer, verification, noted, _⟩ := known
      exact ⟨noted.admitted_eq, noted.trusted_eq⟩
  | trustFails facts now why unpunctual handled =>
      exact absurd trivial unpunctual
  | reject why handled =>
      have records := was.clean session why (Or.inl handled)
      exact ⟨records_withoutCtx.1.trans records.1,
        records_withoutCtx.2.trans records.2⟩
  | wakeLate asleep absent => exact was.clean other reason rejects
  | fire ctx asleep parked away => exact was.clean other reason rejects
  | watchdogSend delivered firing =>
      obtain ⟨_, handling, _⟩ : (view.withSent (.reject .timeout)
          delivered).begun = view.begun ∧ _ :=
        withSent_fields
      have before : view.handling = some (.rejecting other reason) ∨
          view.handling = some (.sendingReject other reason) := by
        rw [← handling]
        exact rejects
      have records := was.clean other reason before
      exact ⟨records_withSent.1.trans records.1,
        records_withSent.2.1.trans records.2⟩
  | watchdogClose closing => exact was.clean other reason rejects
  | _ =>
      cases rejects with
      | inl impossible => cases impossible
      | inr impossible => cases impossible

theorem terminals_withoutCtx : view.withoutCtx.terminals = view.terminals := by
  unfold withoutCtx
  split
  · rfl
  · rfl

theorem over_step (isOver : view.Over)
    (step : Step env True session view after) :
    after.Over ∧ after.terminals = view.terminals ∧
      after.admitted = view.admitted ∧ after.trusted = view.trusted := by
  have ended : ∀ {place : Handling} {conclusion : Prop},
      view.handling = some place → (∀ other, place ≠ .closing other) →
        conclusion := by
    intro place conclusion handled elsewhere
    rcases isOver.away with idle | ⟨other, closing⟩
    · rw [idle] at handled
      cases handled
    · rw [closing] at handled
      cases handled
      exact absurd rfl (elsewhere other)
  have dead : ∀ {ctx : SessionCtx} {conclusion : Prop},
      view.ctx = some ctx → conclusion := by
    intro ctx conclusion parked
    rw [isOver.absent] at parked
    cases parked
  cases step with
  | hear message =>
      exact ⟨⟨isOver.begun, isOver.absent, isOver.calm, isOver.away⟩, rfl, rfl,
        rfl⟩
  | opened message handling notBegun first opens =>
      have begun := isOver.begun
      rw [notBegun] at begun
      cases begun
  | respond ctx response idle parked heard => exact dead parked
  | closed idle =>
      rw [withoutCtx_of_absent isOver.absent]
      exact ⟨isOver, rfl, rfl, rfl⟩
  | close handled =>
      exact ⟨⟨isOver.begun, isOver.absent, isOver.calm, Or.inl rfl⟩, rfl, rfl,
        rfl⟩
  | wakeLate asleep absent =>
      refine ⟨⟨isOver.begun, isOver.absent, ?_, isOver.away⟩, rfl, rfl, rfl⟩
      intro impossible
      cases impossible
  | fire ctx asleep parked away => exact dead parked
  | watchdogSend delivered firing => exact absurd firing isOver.calm
  | watchdogClose closing =>
      refine ⟨⟨isOver.begun, isOver.absent, ?_, isOver.away⟩, rfl, rfl, rfl⟩
      intro impossible
      cases impossible
  | _ =>
      rename_i handled
      refine ended (by assumption) ?_
      intro other impossible
      cases impossible

/-- A session that has not ended sends nothing that ends it, or ends. -/
theorem silent_step (outlined : view.Outlined env True session)
    (was : view.Concluded) (silent : view.terminals = [])
    (step : Step env True session view after) :
    after.terminals = [] ∨
      ∃ message, after.terminals = [message] ∧ after.Over ∧
        ∀ reason, message = .reject reason →
          after.admitted = [] ∧ after.trusted = [] := by
  have known := outlined.outline
  have begun : ∀ {place : Handling}, view.handling = some place →
      view.begun = true := by
    intro place handled
    cases isBegun : view.begun with
    | true => rfl
    | false => exact begun_of_handled outlined handled isBegun
  have more : ∀ message, isTerminal message = true →
      (view.sent ++ [message]).filter isTerminal = [message] := by
    intro message terminal
    have before : view.sent.filter isTerminal = [] := silent
    rw [List.filter_append, before]
    simp [terminal]
  cases step with
  | offerSent offer handled =>
      apply Or.inl
      have before : view.sent.filter isTerminal = [] := silent
      simp only [terminals, List.filter_append, before]
      rfl
  | unpark handled => exact Or.inl (terminals_withoutCtx.trans silent)
  | closed idle => exact Or.inl (terminals_withoutCtx.trans silent)
  | confirm ctx handled parked =>
      exact Or.inl (terminals_withoutCtx.trans silent)
  | reject reason handled => exact Or.inl (terminals_withoutCtx.trans silent)
  | confirmSent ctx confirm handled sameSpace sameDevice =>
      simp only [Outline, handled] at known
      refine Or.inr ⟨.confirm confirm, more _ rfl, ⟨begun handled, known.1,
        was.calm handled, Or.inr ⟨session, rfl⟩⟩, ?_⟩
      intro reason impossible
      cases impossible
  | sendReject reason delivered handled =>
      simp only [Outline, handled] at known
      cases delivered with
      | false => exact Or.inl silent
      | true =>
          refine Or.inr ⟨.reject reason, more _ rfl, ⟨begun handled, known,
            was.calm handled, Or.inr ⟨session, rfl⟩⟩, ?_⟩
          intro same isReject
          exact was.clean session reason (Or.inr handled)
  | watchdogSend delivered firing =>
      obtain ⟨isBegun, idle, absent, records⟩ := was.vigil firing
      cases delivered with
      | false => exact Or.inl silent
      | true =>
          refine Or.inr ⟨.reject .timeout, more _ rfl, ⟨isBegun, absent, ?_,
            Or.inl idle⟩, ?_⟩
          · intro impossible
            cases impossible
          · intro reason isReject
            exact records
  | _ => exact Or.inl silent

theorem concluded_step (outlined : view.Outlined env True session)
    (was : view.Concluded) (step : Step env True session view after) :
    after.Concluded where
  vigil := vigil_step outlined was step
  clean := fun _ _ => clean_step outlined was step
  ends := by
    rcases was.ends with silent | ⟨message, ended, isOver, records⟩
    · exact silent_step outlined was silent step
    · obtain ⟨stillOver, terminals, admitted, trusted⟩ := over_step isOver step
      refine Or.inr ⟨message, terminals.trans ended, stillOver, ?_⟩
      intro reason isReject
      rw [admitted, trusted]
      exact records reason isReject

end Concluded

end SessionView

/-! ## Joiner and sponsor -/

/-- The messages a handshake sends, as far as it gets. -/
def JoinerRun.says (crypto : KeyCrypto) (run : JoinerRun) (keys : DeviceKeys) :
    List PairingSessionMessage :=
  match run.localFacts with
  | .error _ => []
  | .ok facts =>
      .request (run.request facts) ::
        match run.awaitOffer with
        | .error _ => []
        | .ok (offer, nonce) =>
            match deriveMasterKeyForProof crypto keys offer.keyslotBlob
                run.passphrase run.storage, run.buildProof with
            | (some (.ok masterKey), _), none =>
                [.challengeResponse ⟨computeHmac crypto
                  offer.pairingSessionId offer.spaceId nonce masterKey⟩]
            | _, _ => []

/-- No two master keys give the same code. -/
def KeyCrypto.Keyed (crypto : KeyCrypto) : Prop :=
  ∀ payload masterKey other,
    crypto.hmac masterKey payload = crypto.hmac other payload →
      masterKey = other

namespace Sponsor

/-- The joiner is the peer of the session: the sponsor receives nothing that
the joiner does not send, and a reply that reaches the joiner is the one that
was sent next.  Messages may be late or lost on both ways. -/
structure Conversation (env : SponsorEnv) (state : Sponsor)
    (session : PairingSessionId) (run : JoinerRun) (keys : DeviceKeys) :
    Prop where
  heard : ∀ message ∈ messagesOf session state.received,
    message ∈ run.says env.crypto keys
  first : ∀ message, run.firstReply = .message message →
    (messagesOf session state.sent)[0]? = some message
  second : ∀ message, run.secondReply = .message message →
    (messagesOf session state.sent)[1]? = some message

/-- The sponsor has admitted and trusted the device that the request names, and
no other, in the session. -/
def Recorded (state : Sponsor) (session : PairingSessionId)
    (request : JoinerRequest) : Prop :=
  (∃ member, (state.view session).admitted = [member] ∧
    SessionView.Names member request) ∧
  ∃ peer, (state.view session).trusted = [peer] ∧
    SessionView.Names peer request

/-- A joiner that succeeds is recorded as its request says, and is in the
sponsor's space with the sponsor's master key. -/
def JoinerAgrees (env : SponsorEnv) (state : Sponsor) : Prop :=
  ∀ session (run : RedeemRun) (device after : JoinerDevice) result,
    Conversation env state session run.handshake device.keys →
    run.execute env.crypto device = (some (.ok result), after) →
    (∃ facts, run.handshake.localFacts = .ok facts ∧
      state.Recorded session (run.handshake.request facts)) ∧
    after.setupStatus.spaceId = some env.spaceId ∧
    after.keys.session = some env.masterKey

/-- Nothing is recorded from a session that was rejected. -/
def RejectedUnrecorded (state : Sponsor) : Prop :=
  ∀ session reason, (session, .reject reason) ∈ state.sent →
    (state.view session).admitted = [] ∧ (state.view session).trusted = []

/-- A session gets one confirmation or one rejection at most. -/
def EndsOnce (state : Sponsor) : Prop :=
  ∀ session, (state.view session).terminals.length ≤ 1

section Agreement

variable {env : SponsorEnv} {members : Members} {trustedPeers : TrustedPeers}
  {state : Sponsor}

theorem concluded_boot (session : PairingSessionId) :
    ((boot members trustedPeers).view session).Concluded where
  vigil := by
    intro firing
    cases firing
  clean := fun _ _ _ => ⟨rfl, rfl⟩
  ends := Or.inl rfl

theorem concluded_run (session : PairingSessionId)
    (run : Run (step env) (Punctual env) (boot members trustedPeers) state) :
    (state.view session).Outlined env True session ∧
      (state.view session).Concluded := by
  apply view_run True
    (fun view => view.Outlined env True session ∧ view.Concluded) queued_boot
    ⟨outlined_boot True session, concluded_boot session⟩
  · intro before action punctual held
    exact punctual
  · intro before after was step
    exact ⟨SessionView.outlined_step was.1 step,
      SessionView.concluded_step was.1 was.2 step⟩
  · exact run

theorem mem_says {crypto : KeyCrypto} {run : JoinerRun}
    {keys after : DeviceKeys} {facts : JoinerRun.LocalFacts}
    {offer : SponsorKeyslotOffer} {nonce : Digest} {masterKey : MasterKey}
    {message : PairingSessionMessage}
    (collected : run.localFacts = .ok facts)
    (awaited : run.awaitOffer = .ok (offer, nonce))
    (derived : deriveMasterKeyForProof crypto keys offer.keyslotBlob
      run.passphrase run.storage = (some (.ok masterKey), after))
    (said : message ∈ run.says crypto keys) :
    message = .request (run.request facts) ∨
      message = .challengeResponse ⟨computeHmac crypto
        offer.pairingSessionId offer.spaceId nonce masterKey⟩ := by
  unfold JoinerRun.says at said
  rw [collected] at said
  cases List.mem_cons.mp said with
  | inl isRequest => exact Or.inl isRequest
  | inr later =>
      apply Or.inr
      simp only [awaited, derived] at later
      cases built : run.buildProof with
      | some error =>
          rw [built] at later
          cases later
      | none =>
          rw [built] at later
          exact List.mem_singleton.mp later

theorem mem_view_confirms {session : PairingSessionId}
    {confirm : SponsorConfirm} :
    confirm ∈ (state.view session).confirms ↔
      .confirm confirm ∈ messagesOf session state.sent := by
  unfold SessionView.confirms
  rw [List.mem_filterMap]
  constructor
  · rintro ⟨message, member, isConfirm⟩
    cases message with
    | confirm other =>
        cases isConfirm
        exact member
    | _ => cases isConfirm
  · intro member
    exact ⟨_, member, rfl⟩

theorem digest_eq_of_bytes {first second : Digest}
    (same : first.bytes = second.bytes) : first = second := by
  cases first
  cases second
  cases same
  rfl

theorem eq_of_mem_of_length_le {α : Type} {list : List α} {first second : α}
    (few : list.length ≤ 1) (isFirst : first ∈ list)
    (isSecond : second ∈ list) : first = second := by
  match list, few with
  | [only], _ =>
      rw [List.mem_singleton.mp isFirst, List.mem_singleton.mp isSecond]
  | _ :: _ :: _, few => simp at few

theorem joinerAgrees_of_punctual (keyed : env.crypto.Keyed)
    (run : Run (step env) (Punctual env) (boot members trustedPeers) state) :
    JoinerAgrees env state := by
  intro session redeem device after result conversation succeeds
  have sound := (concluded_run session run).1.sound
  obtain ⟨outcome, shaken, status, sameDevice, sameFingerprint⟩ :=
    RedeemRun.execute_eq_ok succeeds
  obtain ⟨facts, offer, nonce, masterKey, confirm, went⟩ :=
    JoinerRun.handshake_eq_ok shaken
  have sentOffer := List.mem_of_getElem? (conversation.first _ went.offered)
  have sentConfirm :=
    List.mem_of_getElem? (conversation.second _ went.confirmed)
  have isOffer : offer ∈ (state.view session).offers :=
    mem_view_offers.mpr (mem_messagesOf.mp sentOffer)
  have only : ∀ other ∈ (state.view session).offers, other = offer :=
    fun other member =>
      eq_of_mem_of_length_le sound.offeredOnce member isOffer
  obtain ⟨⟨member, admitted⟩, ⟨peer, trusted⟩, confirmed, isConfirmed,
    confirmSpace⟩ := sound.confirmed confirm (mem_view_confirms.mpr sentConfirm)
  have ownSpace := (sound.offered offer isOffer).2 trivial
  have said : ∀ message ∈ messagesOf session state.received,
      message = .request (redeem.handshake.request facts) ∨ _ :=
    fun message received => mem_says went.collected went.awaited went.derived
      (conversation.heard message received)
  have sameRequest : ∀ consumption ∈ (state.view session).consumed,
      consumption.request = redeem.handshake.request facts := by
    intro consumption isConsumed
    have received := List.mem_of_mem_head?
      (sound.opened consumption isConsumed)
    rcases said _ received with isRequest | isResponse
    · exact PairingSessionMessage.request.inj isRequest
    · cases isResponse
  have named : ∀ record ∈ (state.view session).admitted ++
      (state.view session).trusted,
      SessionView.Names record (redeem.handshake.request facts) := by
    intro record isRecord
    obtain ⟨consumption, isConsumed, _, _, _, _, _, _, names⟩ :=
      sound.recorded record isRecord
    rw [← sameRequest consumption isConsumed]
    exact names
  have sameKey : masterKey = env.masterKey := by
    have isRecord : member ∈ (state.view session).admitted ++
        (state.view session).trusted := by
      rw [admitted]
      exact List.mem_cons_self
    obtain ⟨_, _, other, isOther, verification, _, ctx, proven, _⟩ :=
      sound.recorded member isRecord
    have same := only other isOther
    subst same
    obtain ⟨unlocked, verified⟩ := proven.verified
    have bySponsor := proof_of_verified verified
    have byJoiner : verification.proof = computeHmac env.crypto
        other.pairingSessionId other.spaceId nonce masterKey := by
      rcases said _ proven.heard with isRequest | isResponse
      · cases isRequest
      · exact congrArg JoinerChallengeResponse.encryptedChallenge
          (PairingSessionMessage.challengeResponse.inj isResponse)
    have sameNonce : nonce = ctx.challengeNonce :=
      digest_eq_of_bytes (went.challenge.symm.trans proven.fits.nonce)
    rw [byJoiner, proven.fits.coreSession, ← proven.fits.offerSession,
      ← proven.fits.space, ← sameNonce] at bySponsor
    exact keyed _ _ _ bySponsor
  refine ⟨⟨facts, went.collected, ⟨member, admitted, named member ?_⟩,
    peer, trusted, named peer ?_⟩, ?_, ?_⟩
  · rw [admitted]
    exact List.mem_cons_self
  · rw [trusted]
    exact List.mem_append_right _ List.mem_cons_self
  · rw [status, went.outcome_eq]
    show some confirm.spaceId = some env.spaceId
    rw [confirmSpace, only confirmed isConfirmed, ownSpace]
  · rw [session_of_derived went.derived, sameKey]

/-- With punctual steps joiner and sponsor agree, a rejected session leaves no
record, and no session ends twice. -/
theorem pairing_agrees_of_punctual (env : SponsorEnv)
    (keyed : env.crypto.Keyed) (members : Members)
    (trustedPeers : TrustedPeers) (state : Sponsor)
    (run : Run (step env) (Punctual env) (boot members trustedPeers) state) :
    JoinerAgrees env state ∧ RejectedUnrecorded state ∧ EndsOnce state := by
  refine ⟨joinerAgrees_of_punctual keyed run, ?_, ?_⟩
  · intro session reason sent
    have isTerminal : .reject reason ∈ (state.view session).terminals :=
      List.mem_filter.mpr ⟨mem_messagesOf.mpr sent, rfl⟩
    rcases (concluded_run session run).2.ends with
      silent | ⟨message, ended, _, records⟩
    · rw [silent] at isTerminal
      cases isTerminal
    · rw [ended] at isTerminal
      exact records reason (List.mem_singleton.mp isTerminal).symm
  · intro session
    rcases (concluded_run session run).2.ends with
      silent | ⟨message, ended, _⟩
    · rw [silent]
      exact Nat.zero_le 1
    · rw [ended]
      exact Nat.le_refl 1

end Agreement

instance (env : SponsorEnv) (state : Sponsor) (action : SponsorAction) :
    Decidable (Punctual env state action) := by
  cases action with
  | begin status freshSpaceId offer =>
      exact inferInstanceAs (Decidable (status = some (some env.spaceId)))
  | trustPeer failure => exact inferInstanceAs (Decidable (failure = none))
  | fireTimeout session =>
      exact inferInstanceAs (Decidable (state.handling.session = some session →
        state.sessions.find session = none))
  | _ => exact inferInstanceAs (Decidable True)

namespace Sample

open JoinerRun.Sample (keys crypto)

/-- The joiner of the pairing that goes well. -/
def redeem : RedeemRun where
  handshake := {
    code := ⟨"WXYZ-9876"⟩
    passphrase := []
    dial := .ok .lan
    localIdentity := .ok request.identityFingerprint
    deviceId := request.deviceId
    settings := .ok (some "Guest")
    addressBlob := none
    sendRequest := none
    firstReply := .message (.keyslotOffer
      ⟨⟨"home"⟩, [], nonce.bytes, session⟩)
    storage := ⟨none, none, none, none⟩
    buildProof := none
    sendResponse := none
    secondReply := .message (.confirm {
      spaceId := ⟨"home"⟩
      senderDeviceId := env.deviceId
      senderDeviceName := facts.deviceName
      senderIdentityFingerprint := facts.identityFingerprint
      transportAddressBlob := []
      sponsorSpacePersonId := none }) }
  now := some 30
  admitMember := none
  trustPeer := none
  setStatus := none

def joiner : JoinerDevice where
  keys := keys
  members := ∅
  trustedPeers := ∅
  setupStatus := ⟨false, none⟩

theorem paired_conversation :
    Conversation env paired session redeem.handshake keys where
  heard := by decide +kernel
  first := by
    intro message isReply
    cases isReply
    decide +kernel
  second := by
    intro message isReply
    cases isReply
    decide +kernel

theorem keyed : env.crypto.Keyed := by
  intro payload masterKey other same
  have sameBytes : masterKey.bytes = other.bytes :=
    List.append_cancel_right same
  cases masterKey
  cases other
  cases sameBytes
  rfl

/-- The timeout falls between the member and the trusted peer. -/
def lateTimeout : List SponsorAction :=
  pairing.take 11 ++ [.fireTimeout session, .watchdogSend session false]

def timedOut : Sponsor :=
  (execute (step env) (boot ∅ ∅) lateTimeout).getD (boot ∅ ∅)

theorem timedOut_executed :
    execute (step env) (boot ∅ ∅) lateTimeout = some timedOut := by
  have succeeds :
      (execute (step env) (boot ∅ ∅) lateTimeout).isSome = true := by
    decide +kernel
  obtain ⟨finish, executed⟩ := Option.isSome_iff_exists.mp succeeds
  rw [timedOut, executed]
  rfl

end Sample

theorem pairing_agrees_of_punctual_paired :
    (∃ facts, Sample.redeem.handshake.localFacts = .ok facts ∧
      Sample.paired.Recorded Sample.session
        (Sample.redeem.handshake.request facts)) ∧
      RejectedUnrecorded Sample.paired ∧ EndsOnce Sample.paired := by
  have punctual : Guarded (step Sample.env) (Punctual Sample.env)
      (boot ∅ ∅) Sample.pairing := by
    decide +kernel
  obtain ⟨agrees, unrecorded, once⟩ := pairing_agrees_of_punctual Sample.env
    Sample.keyed ∅ ∅ Sample.paired
    (Run.ofExecute punctual Sample.paired_executed)
  refine ⟨?_, unrecorded, once⟩
  have succeeds : (Sample.redeem.execute Sample.env.crypto
      Sample.joiner).1 = some (.ok ⟨Sample.env.deviceId,
        Sample.facts.identityFingerprint, ⟨"home"⟩, Sample.request.deviceId,
        Sample.request.identityFingerprint⟩) := by
    decide +kernel
  exact (agrees Sample.session Sample.redeem Sample.joiner _ _
    Sample.paired_conversation (Prod.ext succeeds rfl)).1

/-- The member stays although its session was rejected. -/
theorem timeoutDuringAdmission_rejects_member :
    ¬ ∀ (env : SponsorEnv) (members : Members) (trustedPeers : TrustedPeers)
      (state : Sponsor), env.crypto.Keyed →
      Run (step env) anyAction (boot members trustedPeers) state →
        JoinerAgrees env state ∧ RejectedUnrecorded state ∧
          EndsOnce state := by
  intro agrees
  have unrecorded := (agrees Sample.env ∅ ∅ Sample.timedOut Sample.keyed
    (Run.ofExecute (guarded_anyAction _ _ _) Sample.timedOut_executed)).2.1
  have nothing := (unrecorded Sample.session .timeout (by decide +kernel)).1
  exact absurd nothing (by decide +kernel)

end Sponsor

end OpenClipboard.Pairing
