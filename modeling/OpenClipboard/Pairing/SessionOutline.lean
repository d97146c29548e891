import OpenClipboard.Pairing.JoinerHandshake
import OpenClipboard.Pairing.SessionView

/-!
# The outline of a session

What is known of a session at each place the event loop can be at, and what is
known of it at any time.  Both hold of a session that is not accepted yet and
are kept by its steps.
-/

namespace OpenClipboard.Pairing

variable {admitted trusted : List RecordWritten}
  {verifications : List Verification} {message : PairingSessionMessage}
  {ctx : SessionCtx} {handling : Handling}

namespace SessionView

def offers (view : SessionView) : List SponsorKeyslotOffer :=
  view.sent.filterMap JoinerRun.asOffer

def confirms (view : SessionView) : List SponsorConfirm :=
  view.sent.filterMap JoinerRun.asConfirm

/-- The context belongs to the request and to the offer that answers it. -/
structure Fits (session : PairingSessionId) (request : JoinerRequest)
    (offer : SponsorKeyslotOffer) (ctx : SessionCtx) : Prop where
  joiner : ctx.joiner = request.facts
  space : offer.spaceId = ctx.spaceId
  nonce : offer.challenge = ctx.challengeNonce.bytes
  coreSession : ctx.coreSessionId = session
  offerSession : offer.pairingSessionId = session

/-- What the sponsor noted of the session. -/
structure Ledger (view : SessionView) (consumed : List Consumption)
    (offers : List SponsorKeyslotOffer) (verifications : List Verification)
    (admitted trusted : List RecordWritten) (confirms : List SponsorConfirm) :
    Prop where
  consumed_eq : view.consumed = consumed
  offers_eq : view.offers = offers
  verifications_eq : view.verifications = verifications
  admitted_eq : view.admitted = admitted
  trusted_eq : view.trusted = trusted
  confirms_eq : view.confirms = confirms

section Outline

variable (env : SponsorEnv) (punctual : Prop) (session : PairingSessionId)
  (view : SessionView)

/-- The offer is out, and nothing was verified. -/
def Awaiting (ctx : SessionCtx) : Prop :=
  ∃ consumption offer,
    view.Ledger [consumption] [offer] [] [] [] [] ∧
      Fits session consumption.request offer ctx

/-- A response that was received proves the master key against the context. -/
structure Proven (request : JoinerRequest) (offer : SponsorKeyslotOffer)
    (ctx : SessionCtx) (verification : Verification) : Prop where
  fits : Fits session request offer ctx
  heard : .challengeResponse ⟨verification.proof⟩ ∈ view.received
  verified : ∃ unlocked,
    env.verifyProof unlocked ctx verification.proof = true
  noted : verification =
    ⟨session, ctx.challengeNonce, verification.proof, true⟩

/-- The record is of the device that the request names. -/
def Names (record : RecordWritten) (request : JoinerRequest) : Prop :=
  record.deviceId = request.deviceId ∧
    record.fingerprint = request.identityFingerprint

/-- The proof is verified, and these records are written. -/
def Verified (ctx : SessionCtx) (admitted trusted : List RecordWritten) :
    Prop :=
  ∃ consumption offer verification,
    view.Ledger [consumption] [offer] [verification] admitted trusted [] ∧
      view.Proven env session consumption.request offer ctx verification ∧
      (∀ record ∈ admitted ++ trusted, Names record consumption.request) ∧
      ∀ parked, view.ctx = some parked → parked = ctx

/-- What is known at each place of the event loop. -/
def Outline : Prop :=
  match view.handling with
  | none => ∀ ctx, view.ctx = some ctx → view.Awaiting session ctx
  | some .idle => False
  | some (.matching _ request) =>
      view.ctx = none ∧ view.Ledger [] [] [] [] [] [] ∧
        view.received.head? = some (.request request)
  | some (.offering _ request) =>
      view.ctx = none ∧ ∃ consumption, consumption.request = request ∧
        view.Ledger [consumption] [] [] [] [] []
  | some (.sendingOffer _ offer) =>
      (punctual → offer.spaceId = env.spaceId) ∧
        ∃ consumption, view.Ledger [consumption] [] [] [] [] [] ∧
          ∀ ctx, view.ctx = some ctx →
            Fits session consumption.request offer ctx
  | some (.unparking _) => True
  | some (.arming _) =>
      ∀ ctx, view.ctx = some ctx → view.Awaiting session ctx
  | some (.verifying _ ctx response) =>
      view.Awaiting session ctx ∧
        .challengeResponse response ∈ view.received ∧
        ∀ parked, view.ctx = some parked → parked = ctx
  | some (.admitting _ facts) =>
      ∃ ctx, ctx.joiner = facts ∧ view.Verified env session ctx [] []
  | some (.trusting _ facts _) =>
      ∃ ctx member, ctx.joiner = facts ∧
        view.Verified env session ctx [member] []
  | some (.confirming _) =>
      ∃ ctx member peer, view.Verified env session ctx [member] [peer]
  | some (.sendingConfirm _ ctx) =>
      view.ctx = none ∧
        ∃ member peer, view.Verified env session ctx [member] [peer]
  | some (.rejecting _ _) => True
  | some (.sendingReject _ _) => view.ctx = none
  | some (.closing _) => view.ctx = none

/-- What is known at any time. -/
structure Sound : Prop where
  consumedOnce : view.consumed.length ≤ 1
  offeredOnce : view.offers.length ≤ 1
  verifiedOnce : view.verifications.length ≤ 1
  opened : ∀ consumption ∈ view.consumed,
    view.received.head? = some (.request consumption.request)
  offered : ∀ offer ∈ view.offers, view.consumed ≠ [] ∧
    (punctual → offer.spaceId = env.spaceId)
  verified : view.verifications ≠ [] → view.consumed ≠ []
  recorded : ∀ record ∈ view.admitted ++ view.trusted,
    ∃ consumption ∈ view.consumed, ∃ offer ∈ view.offers,
      ∃ verification ∈ view.verifications, ∃ ctx,
        view.Proven env session consumption.request offer ctx verification ∧
          Names record consumption.request
  confirmed : ∀ confirm ∈ view.confirms,
    (∃ member, view.admitted = [member]) ∧
      (∃ peer, view.trusted = [peer]) ∧
        ∃ offer ∈ view.offers, confirm.spaceId = offer.spaceId

/-- The invariant of a session. -/
structure Outlined : Prop where
  unbegun : view.begun = false → view.handling = none ∧ view.ctx = none ∧
    view.Ledger [] [] [] [] [] []
  outline : view.Outline env punctual session
  sound : view.Sound env punctual session

end Outline

/-! ## Steps that note nothing -/

/-- Nothing is noted; more may have been received. -/
structure Quiet (before after : SessionView) : Prop where
  consumed : after.consumed = before.consumed
  offers : after.offers = before.offers
  verifications : after.verifications = before.verifications
  admitted : after.admitted = before.admitted
  trusted : after.trusted = before.trusted
  confirms : after.confirms = before.confirms
  received : ∃ more, after.received = before.received ++ more

section Quiet

variable {env : SponsorEnv} {punctual : Prop} {session : PairingSessionId}
  {view before after : SessionView}

theorem quiet_same (consumed : after.consumed = before.consumed)
    (sent : after.sent = before.sent)
    (verifications : after.verifications = before.verifications)
    (admitted : after.admitted = before.admitted)
    (trusted : after.trusted = before.trusted)
    (received : after.received = before.received) : Quiet before after where
  consumed := consumed
  offers := by rw [SessionView.offers, sent, SessionView.offers]
  verifications := verifications
  admitted := admitted
  trusted := trusted
  confirms := by rw [SessionView.confirms, sent, SessionView.confirms]
  received := ⟨[], by rw [received, List.append_nil]⟩

theorem withoutCtx_ctx : view.withoutCtx.ctx = none := by
  unfold withoutCtx
  split
  · rename_i absent
    exact absent
  · rfl

theorem quiet_withoutCtx : Quiet view view.withoutCtx := by
  unfold withoutCtx
  split
  · exact quiet_same rfl rfl rfl rfl rfl rfl
  · exact quiet_same rfl rfl rfl rfl rfl rfl

theorem quiet_withSent {reason : PairingRejectReason} {delivered : Bool} :
    Quiet view (view.withSent (.reject reason) delivered) := by
  cases delivered with
  | false => exact quiet_same rfl rfl rfl rfl rfl rfl
  | true =>
      refine ⟨rfl, ?_, rfl, rfl, rfl, ?_, [], (List.append_nil _).symm⟩
      · simp [withSent, SessionView.offers, JoinerRun.asOffer]
      · simp [withSent, SessionView.confirms, JoinerRun.asConfirm]

namespace Quiet

theorem ledger {consumed : List Consumption} {offers : List SponsorKeyslotOffer}
    {confirms : List SponsorConfirm} (quiet : Quiet before after)
    (noted : before.Ledger consumed offers verifications admitted trusted
      confirms) :
    after.Ledger consumed offers verifications admitted trusted confirms where
  consumed_eq := quiet.consumed.trans noted.consumed_eq
  offers_eq := quiet.offers.trans noted.offers_eq
  verifications_eq := quiet.verifications.trans noted.verifications_eq
  admitted_eq := quiet.admitted.trans noted.admitted_eq
  trusted_eq := quiet.trusted.trans noted.trusted_eq
  confirms_eq := quiet.confirms.trans noted.confirms_eq

theorem head_received (quiet : Quiet before after)
    (first : before.received.head? = some message) :
    after.received.head? = some message := by
  obtain ⟨more, received⟩ := quiet.received
  rw [received, List.head?_append, first]
  rfl

theorem mem_received (quiet : Quiet before after)
    (heard : message ∈ before.received) :
    message ∈ after.received := by
  obtain ⟨more, received⟩ := quiet.received
  rw [received]
  exact List.mem_append_left more heard

theorem awaiting (quiet : Quiet before after)
    (awaited : before.Awaiting session ctx) : after.Awaiting session ctx := by
  obtain ⟨consumption, offer, noted, fits⟩ := awaited
  exact ⟨consumption, offer, quiet.ledger noted, fits⟩

theorem proven {request : JoinerRequest} {offer : SponsorKeyslotOffer}
    {verification : Verification} (quiet : Quiet before after)
    (was : before.Proven env session request offer ctx verification) :
    after.Proven env session request offer ctx verification where
  fits := was.fits
  heard := quiet.mem_received was.heard
  verified := was.verified
  noted := was.noted

theorem verified (quiet : Quiet before after)
    (kept : ∀ parked, after.ctx = some parked → before.ctx = some parked)
    (was : before.Verified env session ctx admitted trusted) :
    after.Verified env session ctx admitted trusted := by
  obtain ⟨consumption, offer, verification, noted, isProven, names, same⟩ :=
    was
  exact ⟨consumption, offer, verification, quiet.ledger noted,
    quiet.proven isProven, names, fun parked there =>
      same parked (kept parked there)⟩

theorem sound (quiet : Quiet before after)
    (was : before.Sound env punctual session) :
    after.Sound env punctual session where
  consumedOnce := by
    rw [quiet.consumed]
    exact was.consumedOnce
  offeredOnce := by
    rw [quiet.offers]
    exact was.offeredOnce
  verifiedOnce := by
    rw [quiet.verifications]
    exact was.verifiedOnce
  opened := by
    intro consumption member
    rw [quiet.consumed] at member
    exact quiet.head_received (was.opened consumption member)
  offered := by
    rw [quiet.offers, quiet.consumed]
    exact was.offered
  verified := by
    rw [quiet.verifications, quiet.consumed]
    exact was.verified
  recorded := by
    rw [quiet.admitted, quiet.trusted, quiet.consumed, quiet.offers,
      quiet.verifications]
    intro record member
    obtain ⟨consumption, isConsumed, offer, isOffered, verification,
      isVerified, ctx, isProven, names⟩ := was.recorded record member
    exact ⟨consumption, isConsumed, offer, isOffered, verification,
      isVerified, ctx, quiet.proven isProven, names⟩
  confirmed := by
    rw [quiet.confirms, quiet.admitted, quiet.trusted, quiet.offers]
    exact was.confirmed

theorem outline (quiet : Quiet before after)
    (stays : after.handling = before.handling)
    (kept : ∀ parked, after.ctx = some parked → before.ctx = some parked)
    (was : before.Outline env punctual session) :
    after.Outline env punctual session := by
  have gone : before.ctx = none → after.ctx = none := by
    intro absent
    cases parked : after.ctx with
    | none => rfl
    | some ctx =>
        have there := kept ctx parked
        rw [absent] at there
        cases there
  unfold Outline at was ⊢
  rw [stays]
  cases place : before.handling with
  | none =>
      rw [place] at was
      intro ctx parked
      exact quiet.awaiting (was ctx (kept ctx parked))
  | some handling =>
      rw [place] at was
      cases handling with
      | idle => exact was
      | matching _ request =>
          exact ⟨gone was.1, quiet.ledger was.2.1,
            quiet.head_received was.2.2⟩
      | offering _ request =>
          obtain ⟨absent, consumption, same, noted⟩ := was
          exact ⟨gone absent, consumption, same, quiet.ledger noted⟩
      | sendingOffer _ offer =>
          obtain ⟨own, consumption, noted, fits⟩ := was
          exact ⟨own, consumption, quiet.ledger noted, fun ctx parked =>
            fits ctx (kept ctx parked)⟩
      | unparking _ => trivial
      | arming _ =>
          intro ctx parked
          exact quiet.awaiting (was ctx (kept ctx parked))
      | verifying _ ctx response =>
          obtain ⟨awaited, heard, same⟩ := was
          exact ⟨quiet.awaiting awaited, quiet.mem_received heard,
            fun parked there => same parked (kept parked there)⟩
      | admitting _ facts =>
          obtain ⟨ctx, joiner, verified⟩ := was
          exact ⟨ctx, joiner, quiet.verified kept verified⟩
      | trusting _ facts now =>
          obtain ⟨ctx, member, joiner, verified⟩ := was
          exact ⟨ctx, member, joiner, quiet.verified kept verified⟩
      | confirming _ =>
          obtain ⟨ctx, member, peer, verified⟩ := was
          exact ⟨ctx, member, peer, quiet.verified kept verified⟩
      | sendingConfirm _ ctx =>
          obtain ⟨absent, member, peer, verified⟩ := was
          exact ⟨gone absent, member, peer, quiet.verified kept verified⟩
      | rejecting _ reason => trivial
      | sendingReject _ reason => exact gone was
      | closing _ => exact gone was

theorem outlined (quiet : Quiet before after)
    (begun : after.begun = before.begun)
    (stays : after.handling = before.handling)
    (kept : ∀ parked, after.ctx = some parked → before.ctx = some parked)
    (was : before.Outlined env punctual session) :
    after.Outlined env punctual session where
  unbegun := by
    intro notBegun
    rw [begun] at notBegun
    obtain ⟨handling, absent, noted⟩ := was.unbegun notBegun
    refine ⟨stays.trans handling, ?_, quiet.ledger noted⟩
    cases parked : after.ctx with
    | none => rfl
    | some ctx =>
        have there := kept ctx parked
        rw [absent] at there
        cases there
  outline := quiet.outline stays kept was.outline
  sound := quiet.sound was.sound

theorem moved (quiet : Quiet before after) (begun : after.begun = before.begun)
    (handled : before.handling = some handling)
    (was : before.Outlined env punctual session)
    (known : after.Outline env punctual session) :
    after.Outlined env punctual session where
  unbegun := by
    intro notBegun
    rw [begun] at notBegun
    have impossible := (was.unbegun notBegun).1
    rw [handled] at impossible
    cases impossible
  outline := known
  sound := quiet.sound was.sound

end Quiet

end Quiet

/-! ## Steps that note something -/

section Noting

variable {env : SponsorEnv} {punctual : Prop} {session : PairingSessionId}
  {view : SessionView}

theorem sound_of_ledger {consumption : Consumption}
    {offers : List SponsorKeyslotOffer}
    (noted : view.Ledger [consumption] offers verifications admitted trusted [])
    (offeredOnce : offers.length ≤ 1) (verifiedOnce : verifications.length ≤ 1)
    (first : view.received.head? = some (.request consumption.request))
    (own : ∀ offer ∈ offers, punctual → offer.spaceId = env.spaceId)
    (recorded : ∀ record ∈ admitted ++ trusted,
      ∃ offer ∈ offers, ∃ verification ∈ verifications, ∃ ctx,
        view.Proven env session consumption.request offer ctx verification ∧
          Names record consumption.request) :
    view.Sound env punctual session where
  consumedOnce := by
    rw [noted.consumed_eq]
    exact Nat.le_refl 1
  offeredOnce := by
    rw [noted.offers_eq]
    exact offeredOnce
  verifiedOnce := by
    rw [noted.verifications_eq]
    exact verifiedOnce
  opened := by
    rw [noted.consumed_eq]
    intro other member
    rw [List.mem_singleton.mp member]
    exact first
  offered := by
    rw [noted.offers_eq, noted.consumed_eq]
    intro offer member
    exact ⟨List.cons_ne_nil consumption [], own offer member⟩
  verified := by
    rw [noted.consumed_eq]
    intro verified
    exact List.cons_ne_nil consumption []
  recorded := by
    rw [noted.admitted_eq, noted.trusted_eq, noted.consumed_eq,
      noted.offers_eq, noted.verifications_eq]
    intro record member
    exact ⟨consumption, List.mem_singleton.mpr rfl, recorded record member⟩
  confirmed := by
    rw [noted.confirms_eq]
    intro confirm member
    cases member

theorem Sound.first {consumption : Consumption}
    {offers : List SponsorKeyslotOffer} {confirms : List SponsorConfirm}
    (sound : view.Sound env punctual session)
    (noted : view.Ledger [consumption] offers verifications admitted trusted
      confirms) :
    view.received.head? = some (.request consumption.request) := by
  apply sound.opened
  rw [noted.consumed_eq]
  exact List.mem_singleton.mpr rfl

theorem Sound.own {consumed : List Consumption}
    {offers : List SponsorKeyslotOffer} {confirms : List SponsorConfirm}
    (sound : view.Sound env punctual session)
    (noted : view.Ledger consumed offers verifications admitted trusted
      confirms) :
    ∀ offer ∈ offers, punctual → offer.spaceId = env.spaceId := by
  intro offer member
  apply And.right (sound.offered offer _)
  rw [noted.offers_eq]
  exact member

theorem begun_of_handled {conclusion : Prop}
    (was : view.Outlined env punctual session)
    (handled : view.handling = some handling) (notBegun : view.begun = false) :
    conclusion := by
  have impossible := (was.unbegun notBegun).1
  rw [handled] at impossible
  cases impossible

theorem outlined_opened (notBegun : view.begun = false)
    (first : view.received.head? = some message)
    (opens : handling = .rejecting session
        (.internal "expected Request as first pairing message") ∨
      ∃ request, message = .request request ∧
        handling = .matching session request)
    (was : view.Outlined env punctual session) :
    Outlined env punctual session { view with
      begun := true, handling := some handling } := by
  obtain ⟨idle, absent, noted⟩ := was.unbegun notBegun
  have quiet : Quiet view { view with
      begun := true, handling := some handling } :=
    quiet_same rfl rfl rfl rfl rfl rfl
  constructor
  · intro impossible
    cases impossible
  · rcases opens with rejects | ⟨request, isRequest, matches_⟩
    · subst rejects
      trivial
    · subst isRequest matches_
      exact ⟨absent, quiet.ledger noted, first⟩
  · exact quiet.sound was.sound

theorem outlined_consume {request : JoinerRequest}
    {invitation : PairingInvitation} {now : Int}
    (handled : view.handling = some (.matching session request))
    (was : view.Outlined env punctual session) :
    Outlined env punctual session { view with
      consumed := ⟨invitation, session, request, now⟩ :: view.consumed
      handling := some (.offering session request) } := by
  have known := was.outline
  simp only [Outline, handled] at known
  obtain ⟨absent, noted, first⟩ := known
  have ledger : Ledger { view with
      consumed := ⟨invitation, session, request, now⟩ :: view.consumed
      handling := some (.offering session request) }
        [⟨invitation, session, request, now⟩] [] [] [] [] [] :=
    ⟨by rw [noted.consumed_eq], noted.offers_eq, noted.verifications_eq,
      noted.admitted_eq, noted.trusted_eq, noted.confirms_eq⟩
  constructor
  · intro notBegun
    exact begun_of_handled was handled notBegun
  · exact ⟨absent, _, rfl, ledger⟩
  · apply sound_of_ledger ledger (Nat.zero_le 1) (Nat.zero_le 1) first
    · intro offer member
      cases member
    · intro record member
      cases member

theorem outlined_offerSent {offer : SponsorKeyslotOffer}
    (handled : view.handling = some (.sendingOffer session offer))
    (was : view.Outlined env punctual session) :
    Outlined env punctual session { view with
      sent := view.sent ++ [.keyslotOffer offer]
      handling := some (.arming session) } := by
  have known := was.outline
  simp only [Outline, handled] at known
  obtain ⟨own, consumption, noted, fits⟩ := known
  have first := was.sound.first noted
  have ledger : Ledger { view with
      sent := view.sent ++ [.keyslotOffer offer]
      handling := some (.arming session) }
        [consumption] [offer] [] [] [] [] := by
    refine ⟨noted.consumed_eq, ?_, noted.verifications_eq, noted.admitted_eq,
      noted.trusted_eq, ?_⟩
    · have before := noted.offers_eq
      simp only [SessionView.offers] at before ⊢
      rw [List.filterMap_append, before]
      rfl
    · have before := noted.confirms_eq
      simp only [SessionView.confirms] at before ⊢
      rw [List.filterMap_append, before]
      rfl
  constructor
  · intro notBegun
    exact begun_of_handled was handled notBegun
  · intro ctx parked
    exact ⟨consumption, offer, ledger, fits ctx parked⟩
  · apply sound_of_ledger ledger (Nat.le_refl 1) (Nat.zero_le 1) first
    · intro other member
      rw [List.mem_singleton.mp member]
      exact own
    · intro record member
      cases member

theorem outlined_verify {unlocked : Bool} {response : JoinerChallengeResponse}
    (handled : view.handling = some (.verifying session ctx response))
    (was : view.Outlined env punctual session) :
    Outlined env punctual session { view with
      verifications := ⟨session, ctx.challengeNonce,
        response.encryptedChallenge,
        env.verifyProof unlocked ctx response.encryptedChallenge⟩ ::
          view.verifications
      handling :=
        if env.verifyProof unlocked ctx response.encryptedChallenge then
          some (.admitting session ctx.joiner)
        else
          some (.rejecting session .passphraseMismatch) } := by
  have known := was.outline
  simp only [Outline, handled] at known
  obtain ⟨⟨consumption, offer, noted, fits⟩, heard, same⟩ := known
  have first := was.sound.first noted
  generalize verdict : env.verifyProof unlocked ctx
    response.encryptedChallenge = verified
  have ledger : ∀ handling, Ledger { view with
      verifications := ⟨session, ctx.challengeNonce,
        response.encryptedChallenge, verified⟩ :: view.verifications
      handling := handling }
        [consumption] [offer] [⟨session, ctx.challengeNonce,
          response.encryptedChallenge, verified⟩] [] [] [] :=
    fun handling => ⟨noted.consumed_eq, noted.offers_eq,
      by rw [noted.verifications_eq], noted.admitted_eq, noted.trusted_eq,
      noted.confirms_eq⟩
  constructor
  · intro notBegun
    exact begun_of_handled was handled notBegun
  · cases verified with
    | false => trivial
    | true =>
        refine ⟨ctx, rfl, consumption, offer, _, ledger _,
          ⟨fits, heard, ⟨unlocked, verdict⟩, rfl⟩, ?_, same⟩
        intro record member
        cases member
  · apply sound_of_ledger (ledger _) (Nat.le_refl 1) (Nat.le_refl 1) first
      (was.sound.own noted)
    intro record member
    cases member

theorem outlined_admitMember {facts : JoinerFacts} {now : Int}
    {replaced : Option IdentityFingerprint}
    (handled : view.handling = some (.admitting session facts))
    (was : view.Outlined env punctual session) :
    Outlined env punctual session { view with
      admitted := ⟨session, facts.deviceId, facts.identityFingerprint,
        replaced⟩ :: view.admitted
      handling := some (.trusting session facts now) } := by
  have known := was.outline
  simp only [Outline, handled] at known
  obtain ⟨ctx, joiner, consumption, offer, verification, noted, isProven, _,
    same⟩ := known
  have first := was.sound.first noted
  have ledger : Ledger { view with
      admitted := ⟨session, facts.deviceId, facts.identityFingerprint,
        replaced⟩ :: view.admitted
      handling := some (.trusting session facts now) }
        [consumption] [offer] [verification] [⟨session, facts.deviceId,
          facts.identityFingerprint, replaced⟩] [] [] :=
    ⟨noted.consumed_eq, noted.offers_eq, noted.verifications_eq,
      by rw [noted.admitted_eq], noted.trusted_eq, noted.confirms_eq⟩
  have stillProven : Proven env session { view with
      admitted := ⟨session, facts.deviceId, facts.identityFingerprint,
        replaced⟩ :: view.admitted
      handling := some (.trusting session facts now) }
        consumption.request offer ctx verification :=
    ⟨isProven.fits, isProven.heard, isProven.verified, isProven.noted⟩
  have names : ∀ record ∈ [⟨session, facts.deviceId,
      facts.identityFingerprint, replaced⟩] ++ [],
      Names record consumption.request := by
    intro record member
    rw [List.append_nil] at member
    rw [List.mem_singleton.mp member, ← joiner, isProven.fits.joiner]
    exact ⟨rfl, rfl⟩
  constructor
  · intro notBegun
    exact begun_of_handled was handled notBegun
  · exact ⟨ctx, _, joiner, consumption, offer, verification, ledger,
      stillProven, names, same⟩
  · apply sound_of_ledger ledger (Nat.le_refl 1) (Nat.le_refl 1) first
      (was.sound.own noted)
    intro record member
    exact ⟨offer, List.mem_singleton.mpr rfl, verification,
      List.mem_singleton.mpr rfl, ctx, stillProven, names record member⟩

theorem outlined_trustPeer {facts : JoinerFacts} {now : Int}
    {replaced : Option IdentityFingerprint}
    (handled : view.handling = some (.trusting session facts now))
    (was : view.Outlined env punctual session) :
    Outlined env punctual session { view with
      trusted := ⟨session, facts.deviceId, facts.identityFingerprint,
        replaced⟩ :: view.trusted
      handling := some (.confirming session) } := by
  have known := was.outline
  simp only [Outline, handled] at known
  obtain ⟨ctx, member, joiner, consumption, offer, verification, noted,
    isProven, memberNames, same⟩ := known
  have first := was.sound.first noted
  have ledger : Ledger { view with
      trusted := ⟨session, facts.deviceId, facts.identityFingerprint,
        replaced⟩ :: view.trusted
      handling := some (.confirming session) }
        [consumption] [offer] [verification] [member] [⟨session,
          facts.deviceId, facts.identityFingerprint, replaced⟩] [] :=
    ⟨noted.consumed_eq, noted.offers_eq, noted.verifications_eq,
      noted.admitted_eq, by rw [noted.trusted_eq], noted.confirms_eq⟩
  have stillProven : Proven env session { view with
      trusted := ⟨session, facts.deviceId, facts.identityFingerprint,
        replaced⟩ :: view.trusted
      handling := some (.confirming session) }
        consumption.request offer ctx verification :=
    ⟨isProven.fits, isProven.heard, isProven.verified, isProven.noted⟩
  have names : ∀ record ∈ [member] ++ [⟨session, facts.deviceId,
      facts.identityFingerprint, replaced⟩],
      Names record consumption.request := by
    intro record isRecord
    cases List.mem_append.mp isRecord with
    | inl isMember =>
        apply memberNames
        rw [List.append_nil]
        exact isMember
    | inr isPeer =>
        rw [List.mem_singleton.mp isPeer, ← joiner, isProven.fits.joiner]
        exact ⟨rfl, rfl⟩
  constructor
  · intro notBegun
    exact begun_of_handled was handled notBegun
  · exact ⟨ctx, member, _, consumption, offer, verification, ledger,
      stillProven, names, same⟩
  · apply sound_of_ledger ledger (Nat.le_refl 1) (Nat.le_refl 1) first
      (was.sound.own noted)
    intro record isRecord
    exact ⟨offer, List.mem_singleton.mpr rfl, verification,
      List.mem_singleton.mpr rfl, ctx, stillProven, names record isRecord⟩

theorem outlined_confirmSent {confirm : SponsorConfirm}
    (handled : view.handling = some (.sendingConfirm session ctx))
    (sameSpace : confirm.spaceId = ctx.spaceId)
    (was : view.Outlined env punctual session) :
    Outlined env punctual session { view with
      sent := view.sent ++ [.confirm confirm]
      handling := some (.closing session) } := by
  have known := was.outline
  simp only [Outline, handled] at known
  obtain ⟨absent, member, peer, consumption, offer, verification, noted,
    isProven, names, same⟩ := known
  have offers : SessionView.offers { view with
      sent := view.sent ++ [.confirm confirm]
      handling := some (.closing session) } = view.offers := by
    simp only [SessionView.offers, List.filterMap_append]
    exact List.append_nil _
  have confirms : SessionView.confirms { view with
      sent := view.sent ++ [.confirm confirm]
      handling := some (.closing session) } = view.confirms ++ [confirm] := by
    simp only [SessionView.confirms, List.filterMap_append]
    rfl
  constructor
  · intro notBegun
    exact begun_of_handled was handled notBegun
  · exact absent
  · constructor
    · exact was.sound.consumedOnce
    · rw [offers]
      exact was.sound.offeredOnce
    · exact was.sound.verifiedOnce
    · exact was.sound.opened
    · rw [offers]
      exact was.sound.offered
    · exact was.sound.verified
    · rw [offers]
      intro record isRecord
      obtain ⟨consumption, isConsumed, offer, isOffered, verification,
        isVerified, ctx, isProven, names⟩ := was.sound.recorded record isRecord
      exact ⟨consumption, isConsumed, offer, isOffered, verification,
        isVerified, ctx,
        ⟨isProven.fits, isProven.heard, isProven.verified, isProven.noted⟩,
        names⟩
    · rw [confirms, noted.confirms_eq, offers]
      intro other isConfirm
      rw [List.mem_singleton.mp isConfirm]
      refine ⟨⟨member, noted.admitted_eq⟩, ⟨peer, noted.trusted_eq⟩, offer, ?_,
        ?_⟩
      · rw [noted.offers_eq]
        exact List.mem_singleton.mpr rfl
      · rw [sameSpace, isProven.fits.space]

theorem outlined_handling {place : Handling} {next : Option Handling}
    (handled : view.handling = some place)
    (was : view.Outlined env punctual session)
    (known : Outline env punctual session { view with handling := next }) :
    Outlined env punctual session { view with handling := next } := by
  have quiet : Quiet view { view with handling := next } :=
    quiet_same rfl rfl rfl rfl rfl rfl
  exact quiet.moved rfl handled was known

theorem withoutCtx_begun : view.withoutCtx.begun = view.begun := by
  unfold withoutCtx
  split
  · rfl
  · rfl

theorem withoutCtx_handling : view.withoutCtx.handling = view.handling := by
  unfold withoutCtx
  split
  · rfl
  · rfl

theorem withSent_fields {delivered : Bool} :
    (view.withSent message delivered).begun = view.begun ∧
      (view.withSent message delivered).handling = view.handling ∧
      (view.withSent message delivered).ctx = view.ctx := by
  cases delivered with
  | false => exact ⟨rfl, rfl, rfl⟩
  | true => exact ⟨rfl, rfl, rfl⟩

theorem Quiet.withHandling {after : SessionView} {next : Option Handling}
    (quiet : Quiet view after) :
    Quiet view { after with handling := next } :=
  ⟨quiet.consumed, quiet.offers, quiet.verifications, quiet.admitted,
    quiet.trusted, quiet.confirms, quiet.received⟩

theorem outlined_withoutCtx {place next : Handling}
    (handled : view.handling = some place)
    (was : view.Outlined env punctual session)
    (known : Outline env punctual session
      { view.withoutCtx with handling := some next }) :
    Outlined env punctual session
      { view.withoutCtx with handling := some next } :=
  quiet_withoutCtx.withHandling.moved withoutCtx_begun handled was known

theorem outlined_step {after : SessionView}
    (was : view.Outlined env punctual session)
    (step : Step env punctual session view after) :
    after.Outlined env punctual session := by
  have known := was.outline
  cases step with
  | hear message =>
      have quiet : Quiet view
          { view with received := view.received ++ [message] } :=
        ⟨rfl, rfl, rfl, rfl, rfl, rfl, [message], rfl⟩
      exact quiet.outlined rfl rfl (fun parked there => there) was
  | opened message handling notBegun first opens =>
      exact outlined_opened notBegun first opens.2 was
  | consume request invitation now handled =>
      exact outlined_consume handled was
  | mismatch request reason handled =>
      apply outlined_handling handled was
      trivial
  | offer request spaceId blob nonce handled own =>
      simp only [Outline, handled] at known
      obtain ⟨absent, consumption, same, noted⟩ := known
      have quiet : Quiet view { view with
          ctx := some ⟨spaceId, nonce, session, request.facts, false⟩
          handling := some (.sendingOffer session
            ⟨spaceId, blob, nonce.bytes, session⟩) } :=
        quiet_same rfl rfl rfl rfl rfl rfl
      apply quiet.moved rfl handled was
      refine ⟨own, consumption, quiet.ledger noted, ?_⟩
      intro ctx parked
      cases parked
      subst same
      exact ⟨rfl, rfl, rfl, rfl, rfl⟩
  | offerFails request reason handled =>
      simp only [Outline, handled] at known
      apply outlined_handling handled was
      exact known.1
  | offerSent offer handled => exact outlined_offerSent handled was
  | offerLost offer handled =>
      apply outlined_handling handled was
      trivial
  | unpark handled =>
      apply outlined_withoutCtx handled was
      exact withoutCtx_ctx
  | armNothing handled absent =>
      apply outlined_handling handled was
      intro ctx parked
      have impossible : view.ctx = some ctx := parked
      rw [absent] at impossible
      cases impossible
  | arm ctx handled parked =>
      simp only [Outline, handled] at known
      obtain ⟨consumption, offer, noted, fits⟩ := known ctx parked
      have quiet : Quiet view { view with
          ctx := some { ctx with timerAbort := true }
          watchdog := some .sleeping
          handling := none } :=
        quiet_same rfl rfl rfl rfl rfl rfl
      apply quiet.moved rfl handled was
      intro armed isArmed
      cases isArmed
      exact ⟨consumption, offer, quiet.ledger noted,
        ⟨fits.joiner, fits.space, fits.nonce, fits.coreSession,
          fits.offerSession⟩⟩
  | respond ctx response idle parked heard =>
      simp only [Outline, idle] at known
      have quiet : Quiet view { view with
          handling := some (.verifying session ctx response) } :=
        quiet_same rfl rfl rfl rfl rfl rfl
      constructor
      · intro notBegun
        have absent := (was.unbegun notBegun).2.1
        rw [parked] at absent
        cases absent
      · refine ⟨quiet.awaiting (known ctx parked), heard, ?_⟩
        intro other there
        have sameCtx : view.ctx = some other := there
        rw [parked] at sameCtx
        cases sameCtx
        rfl
      · exact quiet.sound was.sound
  | closed idle =>
      apply quiet_withoutCtx.outlined withoutCtx_begun withoutCtx_handling _ was
      intro parked there
      rw [withoutCtx_ctx] at there
      cases there
  | verify unlocked ctx response handled => exact outlined_verify handled was
  | admitMember facts now replaced handled =>
      exact outlined_admitMember handled was
  | admitFails facts reason handled =>
      apply outlined_handling handled was
      trivial
  | trustPeer facts now replaced handled => exact outlined_trustPeer handled was
  | trustFails facts now reason unpunctual handled =>
      apply outlined_handling handled was
      trivial
  | confirmNothing handled absent =>
      apply outlined_handling handled was
      intro ctx parked
      have impossible : view.ctx = some ctx := parked
      rw [absent] at impossible
      cases impossible
  | confirm ctx handled parked =>
      simp only [Outline, handled] at known
      obtain ⟨proven, member, peer, verified⟩ := known
      have quiet : Quiet view { view.withoutCtx with
          handling := some (.sendingConfirm session ctx) } :=
        quiet_withoutCtx.withHandling
      apply outlined_withoutCtx handled was
      have isProven : ctx = proven := by
        obtain ⟨_, _, _, _, _, _, same⟩ := verified
        exact same ctx parked
      subst isProven
      refine ⟨withoutCtx_ctx, member, peer, quiet.verified ?_ verified⟩
      intro other there
      have impossible : view.withoutCtx.ctx = some other := there
      rw [withoutCtx_ctx] at impossible
      cases impossible
  | confirmSent ctx confirm handled sameSpace sameDevice =>
      exact outlined_confirmSent handled sameSpace was
  | confirmLost ctx handled =>
      simp only [Outline, handled] at known
      apply outlined_handling handled was
      intro other parked
      have impossible : view.ctx = some other := parked
      rw [known.1] at impossible
      cases impossible
  | reject reason handled =>
      apply outlined_withoutCtx handled was
      exact withoutCtx_ctx
  | sendReject reason delivered handled =>
      simp only [Outline, handled] at known
      obtain ⟨begun, _, sameCtx⟩ : (view.withSent (.reject reason)
          delivered).begun = view.begun ∧ _ :=
        withSent_fields
      have quiet : Quiet view { view.withSent (.reject reason) delivered with
          handling := some (.closing session) } :=
        quiet_withSent.withHandling
      apply quiet.moved begun handled was
      exact sameCtx.trans known
  | close handled =>
      simp only [Outline, handled] at known
      apply outlined_handling handled was
      intro other parked
      have impossible : view.ctx = some other := parked
      rw [known] at impossible
      cases impossible
  | wakeLate asleep absent =>
      have quiet : Quiet view { view with watchdog := none } :=
        quiet_same rfl rfl rfl rfl rfl rfl
      exact quiet.outlined rfl rfl (fun parked there => there) was
  | fire ctx asleep parked away =>
      have quiet : Quiet view
          { view with ctx := none, watchdog := some .firing } :=
        quiet_same rfl rfl rfl rfl rfl rfl
      apply quiet.outlined rfl rfl _ was
      intro other there
      cases there
  | watchdogSend delivered firing =>
      obtain ⟨begun, handling, sameCtx⟩ : (view.withSent (.reject .timeout)
          delivered).begun = view.begun ∧ _ :=
        withSent_fields
      have sent : Quiet view (view.withSent (.reject .timeout) delivered) :=
        quiet_withSent
      have quiet : Quiet view
          { view.withSent (.reject .timeout) delivered with
            watchdog := some .closing } :=
        ⟨sent.consumed, sent.offers, sent.verifications, sent.admitted,
          sent.trusted, sent.confirms, sent.received⟩
      apply quiet.outlined begun handling _ was
      intro parked there
      exact sameCtx.symm.trans there
  | watchdogClose closing =>
      have quiet : Quiet view { view with watchdog := none } :=
        quiet_same rfl rfl rfl rfl rfl rfl
      exact quiet.outlined rfl rfl (fun parked there => there) was

end Noting

end SessionView

/-! ## Runs -/

namespace Sponsor

open Transition

variable {env : SponsorEnv} {members : Members} {trustedPeers : TrustedPeers}
  {state : Sponsor}

theorem outlined_boot (punctual : Prop) (session : PairingSessionId) :
    ((boot members trustedPeers).view session).Outlined env punctual
      session := by
  constructor
  · intro notBegun
    exact ⟨rfl, rfl, rfl, rfl, rfl, rfl, rfl, rfl⟩
  · intro ctx parked
    cases parked
  · constructor
    · exact Nat.zero_le 1
    · exact Nat.zero_le 1
    · exact Nat.zero_le 1
    · intro consumption member
      cases member
    · intro offer member
      cases member
    · intro verified
      exact absurd rfl verified
    · intro record member
      cases member
    · intro confirm member
      cases member

theorem outlined_run {punctual : Prop}
    {guard : Sponsor → SponsorAction → Prop} (session : PairingSessionId)
    (kept : ∀ before action, guard before action → punctual →
      Punctual env before action)
    (run : Run (step env) guard (boot members trustedPeers) state) :
    (state.view session).Outlined env punctual session :=
  view_run punctual (fun view => view.Outlined env punctual session) queued_boot
    (outlined_boot punctual session) kept
    (fun _ _ was step => SessionView.outlined_step was step) run

end Sponsor

end OpenClipboard.Pairing
