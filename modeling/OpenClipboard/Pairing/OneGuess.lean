import OpenClipboard.Pairing.SessionOutline

/-!
# One guess per invitation

An invitation that a request consumes is gone from the holder, and no other
request gets it.  Its session has one offer, with a nonce of its own, and one
response is verified against that nonce.
-/

namespace OpenClipboard.Pairing

open Transition

/-! ## The holder -/

section Holder

variable {holder after : InvitationHolder} {code : InvitationCode} {now : Int}
  {invitation : PairingInvitation}

theorem consume_eq_ok {incoming : InvitationCode}
    {consumed : PairingInvitation}
    (consumes : invitation.consume incoming now = .ok consumed) :
    invitation.code = incoming ∧
      ∃ expiresAt, invitation.state = .pending expiresAt ∧
        now < expiresAt := by
  unfold PairingInvitation.consume at consumes
  split at consumes
  · rename_i expiresAt pending
    by_cases late : expiresAt ≤ now
    · rw [if_pos late] at consumes
      cases consumes
    · rw [if_neg late] at consumes
      by_cases mismatch : invitation.code ≠ incoming
      · rw [if_pos mismatch] at consumes
        cases consumes
      · exact ⟨not_not.mp mismatch, expiresAt, pending, not_le.mp late⟩
  · cases consumes

theorem takeMatching_eq_ok
    (took : holder.takeMatching code now = (.ok invitation, after)) :
    holder.find code = some invitation ∧ after = holder.remove code ∧
      invitation.code = code ∧
      ∃ expiresAt, invitation.state = .pending expiresAt ∧
        now < expiresAt := by
  unfold InvitationHolder.takeMatching at took
  split at took
  · cases took
  · rename_i found held
    split at took
    · rename_i consumed consumes
      cases took
      exact ⟨held, rfl, consume_eq_ok consumes⟩
    · cases took
    · cases took
    · cases took

theorem takeMatching_holder :
    (holder.takeMatching code now).2 = holder ∨
      (holder.takeMatching code now).2 = holder.remove code := by
  unfold InvitationHolder.takeMatching
  split
  · exact Or.inl rfl
  · split
    · exact Or.inr rfl
    · exact Or.inr rfl
    · exact Or.inr rfl
    · exact Or.inr rfl

end Holder

/-! ## Serial numbers -/

namespace Sponsor

section Serials

variable {env : SponsorEnv} {state next : Sponsor} {action : SponsorAction}

/-- What is said of invitations is left alone. -/
def SameBooks (before after : Sponsor) : Prop :=
  after.holder = before.holder ∧ after.issued = before.issued ∧
    after.consumed = before.consumed

theorem SessionsOnly.books (only : SessionsOnly state next) :
    SameBooks state next := by
  unfold SessionsOnly at only
  refine ⟨?_, ?_, ?_⟩ <;> rw [only]

theorem matchInvitation_books {session : PairingSessionId}
    {request : JoinerRequest} {now : Option Int} :
    (state.matchInvitation session request now).issued = state.issued ∧
      (((state.matchInvitation session request now).consumed =
          state.consumed ∧
        ((state.matchInvitation session request now).holder = state.holder ∨
          (state.matchInvitation session request now).holder =
            state.holder.remove request.invitationCode)) ∨
      ∃ invitation time,
        state.holder.takeMatching request.invitationCode time =
          (.ok invitation,
            (state.matchInvitation session request now).holder) ∧
        (state.matchInvitation session request now).consumed =
          ⟨invitation, session, request, time⟩ :: state.consumed) := by
  unfold matchInvitation
  split
  · exact ⟨rfl, Or.inl ⟨rfl, Or.inl rfl⟩⟩
  · rename_i time
    have taken : (state.holder.takeMatching request.invitationCode time).2 =
        state.holder ∨
        (state.holder.takeMatching request.invitationCode time).2 =
          state.holder.remove request.invitationCode :=
      takeMatching_holder
    split
    · rename_i invitation holder took
      exact ⟨rfl, Or.inr ⟨invitation, time, took, rfl⟩⟩
    · rename_i message holder took
      rw [took] at taken
      exact ⟨rfl, Or.inl ⟨rfl, taken⟩⟩
    · rename_i error holder _ took
      rw [took] at taken
      exact ⟨rfl, Or.inl ⟨rfl, taken⟩⟩

theorem books_of_stepped (stepped : Stepped env state action next) :
    SameBooks state next ∨
      (∃ code issuedAt expiresAt,
        next = state.issue env code issuedAt expiresAt) ∨
      next = { state with holder := ∅ } ∨
      ∃ session request now, state.handling = .matching session request ∧
        next = state.matchInvitation session request now := by
  have goes := sessionsOnly_of_stepped stepped
  cases stepped with
  | issue code issuedAt expiresAt =>
      exact Or.inr (Or.inl ⟨code, issuedAt, expiresAt, rfl⟩)
  | cancelAll => exact Or.inr (Or.inr (Or.inl rfl))
  | matchInvitation now session request handled =>
      exact Or.inr (Or.inr (Or.inr ⟨session, request, now, handled, rfl⟩))
  | takeEvent event rest idle due =>
      exact Or.inl (sessionsOnly_handle event rest).books
  | admitMember now failure session facts handled =>
      apply Or.inl
      unfold admitMember
      split
      · exact ⟨rfl, rfl, rfl⟩
      · exact ⟨rfl, rfl, rfl⟩
      · exact ⟨rfl, rfl, rfl⟩
  | trustPeer failure session facts now handled =>
      apply Or.inl
      cases failure with
      | none => exact ⟨rfl, rfl, rfl⟩
      | some error => exact ⟨rfl, rfl, rfl⟩
  | accept session remote message isNew => exact Or.inl ⟨rfl, rfl, rfl⟩
  | frame session message known => exact Or.inl ⟨rfl, rfl, rfl⟩
  | hangUp session known => exact Or.inl ⟨rfl, rfl, rfl⟩
  | _ => exact Or.inl (goes rfl).books

/-- Invitations in the holder and consumed ones all have serial numbers of
their own, below the next. -/
structure Serials (state : Sponsor) : Prop where
  heldBelow : ∀ code invitation,
    state.holder.find code = some invitation →
      invitation.serial < state.issued
  heldOnce : ∀ code other invitation another,
    state.holder.find code = some invitation →
      state.holder.find other = some another →
        invitation.serial = another.serial → code = other
  consumedBelow : ∀ entry ∈ state.consumed,
    entry.invitation.serial < state.issued
  apart : ∀ entry ∈ state.consumed, ∀ code invitation,
    state.holder.find code = some invitation →
      invitation.serial ≠ entry.invitation.serial
  consumedOnce : (state.consumed.map fun entry =>
    entry.invitation.serial).Nodup

theorem serials_boot {members : Members} {trustedPeers : TrustedPeers} :
    (boot members trustedPeers).Serials where
  heldBelow := by
    intro code invitation held
    cases held
  heldOnce := by
    intro code other invitation another held
    cases held
  consumedBelow := by
    intro entry member
    cases member
  apart := by
    intro entry member
    cases member
  consumedOnce := List.nodup_nil

theorem Serials.shrink (serials : state.Serials)
    (issued : next.issued = state.issued)
    (consumed : next.consumed = state.consumed)
    (held : ∀ code invitation, next.holder.find code = some invitation →
      state.holder.find code = some invitation) : next.Serials where
  heldBelow := by
    intro code invitation found
    rw [issued]
    exact serials.heldBelow code invitation (held code invitation found)
  heldOnce := by
    intro code other invitation another found foundToo
    exact serials.heldOnce code other invitation another
      (held code invitation found) (held other another foundToo)
  consumedBelow := by
    rw [issued, consumed]
    exact serials.consumedBelow
  apart := by
    rw [consumed]
    intro entry member code invitation found
    exact serials.apart entry member code invitation
      (held code invitation found)
  consumedOnce := by
    rw [consumed]
    exact serials.consumedOnce

theorem find_of_find_remove {holder : InvitationHolder}
    {removed code : InvitationCode} {invitation : PairingInvitation}
    (found : (holder.remove removed).find code = some invitation) :
    code ≠ removed ∧ holder.find code = some invitation := by
  rw [Table.find_remove] at found
  by_cases same : code = removed
  · rw [if_pos same] at found
    cases found
  · rw [if_neg same] at found
    exact ⟨same, found⟩

theorem serials_issue {code : InvitationCode} {issuedAt expiresAt : Int}
    (serials : state.Serials) :
    (state.issue env code issuedAt expiresAt).Serials := by
  have found : ∀ other invitation,
      (state.issue env code issuedAt expiresAt).holder.find other =
        some invitation →
      (other = code ∧ invitation.serial = state.issued) ∨
        (other ≠ code ∧ state.holder.find other = some invitation) := by
    intro other invitation held
    simp only [issue] at held
    rw [Table.find_put] at held
    by_cases same : other = code
    · rw [if_pos same] at held
      cases held
      exact Or.inl ⟨same, rfl⟩
    · rw [if_neg same] at held
      exact Or.inr ⟨same, held⟩
  constructor
  · intro other invitation held
    show invitation.serial < state.issued + 1
    rcases found other invitation held with ⟨_, isNew⟩ | ⟨_, old⟩
    · omega
    · have below := serials.heldBelow other invitation old
      omega
  · intro first second invitation another held heldToo same
    rcases found first invitation held with ⟨isCode, isNew⟩ | ⟨_, old⟩
    · rcases found second another heldToo with ⟨isCodeToo, _⟩ | ⟨_, oldToo⟩
      · rw [isCode, isCodeToo]
      · have below := serials.heldBelow second another oldToo
        omega
    · rcases found second another heldToo with ⟨_, isNewToo⟩ | ⟨_, oldToo⟩
      · have below := serials.heldBelow first invitation old
        omega
      · exact serials.heldOnce first second invitation another old oldToo same
  · intro entry member
    have below := serials.consumedBelow entry member
    show entry.invitation.serial < state.issued + 1
    omega
  · intro entry member other invitation held
    rcases found other invitation held with ⟨_, isNew⟩ | ⟨_, old⟩
    · have below := serials.consumedBelow entry member
      omega
    · exact serials.apart entry member other invitation old
  · exact serials.consumedOnce

theorem serials_matchInvitation {session : PairingSessionId}
    {request : JoinerRequest} {now : Option Int} (serials : state.Serials) :
    (state.matchInvitation session request now).Serials := by
  have books : (state.matchInvitation session request now).issued =
      state.issued ∧ _ :=
    matchInvitation_books
  obtain ⟨issued, ⟨consumed, kept | taken⟩ | ⟨invitation, time, took,
    consumed⟩⟩ := books
  · apply serials.shrink issued consumed
    intro code invitation found
    rw [kept] at found
    exact found
  · apply serials.shrink issued consumed
    intro code invitation found
    rw [taken] at found
    exact (find_of_find_remove found).2
  · obtain ⟨held, after, _⟩ := takeMatching_eq_ok took
    have found : ∀ code other,
        (state.matchInvitation session request now).holder.find code =
          some other →
        code ≠ request.invitationCode ∧
          state.holder.find code = some other := by
      intro code other there
      rw [after] at there
      exact find_of_find_remove there
    constructor
    · intro code other there
      rw [issued]
      exact serials.heldBelow code other (found code other there).2
    · intro code other first second there thereToo
      exact serials.heldOnce code other first second
        (found code first there).2 (found other second thereToo).2
    · rw [issued, consumed]
      intro entry member
      cases List.mem_cons.mp member with
      | inl isNew =>
          rw [isNew]
          exact serials.heldBelow _ invitation held
      | inr isOld => exact serials.consumedBelow entry isOld
    · rw [consumed]
      intro entry member code other there
      obtain ⟨different, was⟩ := found code other there
      cases List.mem_cons.mp member with
      | inl isNew =>
          rw [isNew]
          intro same
          exact different (serials.heldOnce code _ other invitation was held
            same)
      | inr isOld => exact serials.apart entry isOld code other was
    · rw [consumed, List.map_cons, List.nodup_cons]
      refine ⟨?_, serials.consumedOnce⟩
      intro member
      obtain ⟨entry, isOld, same⟩ := List.mem_map.mp member
      exact serials.apart entry isOld _ invitation held same.symm

theorem serials_step (serials : state.Serials)
    (ran : state.step env action = some next) : next.Serials := by
  rcases books_of_stepped (stepped_of_step ran) with
    same | ⟨code, issuedAt, expiresAt, isNext⟩ | isNext |
    ⟨session, request, now, handled, isNext⟩
  · obtain ⟨holder, issued, consumed⟩ := same
    apply serials.shrink issued consumed
    intro code invitation found
    rw [holder] at found
    exact found
  · subst isNext
    exact serials_issue serials
  · subst isNext
    have emptied : Serials { state with holder := ∅ } := by
      refine serials.shrink rfl rfl ?_
      intro code invitation found
      cases found
    exact emptied
  · subst isNext
    exact serials_matchInvitation serials

end Serials

/-! ## Every admission is the one guess of its invitation -/

section Guesses

variable (env : SponsorEnv) (start state : Sponsor)

/-- The request got the invitation out of the holder, where it was pending and
not expired. -/
def Took (entry : Consumption) : Prop :=
  ∃ before, Run (step env) anyAction start before ∧
    Run (step env) anyAction before state ∧
    before.holder.find entry.request.invitationCode =
      some entry.invitation ∧
    entry.invitation.code = entry.request.invitationCode ∧
    ∃ expiresAt, entry.invitation.state = .pending expiresAt ∧
      entry.now < expiresAt

/-- The sessions whose request consumed the invitation. -/
def ledTo (serial : Nat) : List PairingSessionId :=
  (state.consumed.filter fun entry =>
    decide (entry.invitation.serial = serial)).map Consumption.session

def offersFor (serial : Nat) : List SponsorKeyslotOffer :=
  (state.ledTo serial).flatMap fun session => (state.view session).offers

/-- The verifications an invitation led to. -/
def guessesFor (serial : Nat) : List Verification :=
  (state.ledTo serial).flatMap fun session =>
    (state.view session).verifications

variable {env start state}

theorem serials_run {guard : Sponsor → SponsorAction → Prop}
    (initially : start.Serials)
    (run : Run (step env) guard start state) : state.Serials := by
  apply run.preserves initially
  intro before action after serials admitted ran
  exact serials_step serials ran

theorem took_of_consumed (nothing : start.consumed = [])
    (run : Run (step env) anyAction start state) :
    ∀ entry ∈ state.consumed, Took env start state entry := by
  induction run with
  | refl =>
      rw [nothing]
      intro entry member
      cases member
  | tail action earlier admitted ran inductionHypothesis =>
      rename_i before after
      have longer : ∀ entry, Took env start before entry →
          Took env start after entry := by
        rintro entry ⟨middle, toMiddle, onwards, rest⟩
        exact ⟨middle, toMiddle, onwards.tail action admitted ran, rest⟩
      intro entry member
      rcases books_of_stepped (stepped_of_step ran) with
        same | ⟨code, issuedAt, expiresAt, isNext⟩ | isNext |
        ⟨session, request, now, handled, isNext⟩
      · rw [same.2.2] at member
        exact longer entry (inductionHypothesis entry member)
      · rw [isNext] at member
        exact longer entry (inductionHypothesis entry member)
      · rw [isNext] at member
        exact longer entry (inductionHypothesis entry member)
      · have books : (before.matchInvitation session request now).issued =
            before.issued ∧ _ :=
          matchInvitation_books
        obtain ⟨_, ⟨consumed, _⟩ | ⟨invitation, time, took, consumed⟩⟩ := books
        · rw [isNext, consumed] at member
          exact longer entry (inductionHypothesis entry member)
        · rw [isNext, consumed] at member
          cases List.mem_cons.mp member with
          | inl isNew =>
              obtain ⟨held, _, pending⟩ := takeMatching_eq_ok took
              rw [isNew]
              exact ⟨before, earlier, Run.refl.tail action admitted ran, held,
                pending⟩
          | inr isOld => exact longer entry (inductionHypothesis entry isOld)

theorem length_flatMap_le {α β : Type} {list : List α} {image : α → List β}
    (few : list.length ≤ 1) (each : ∀ item, (image item).length ≤ 1) :
    (list.flatMap image).length ≤ 1 := by
  match list, few with
  | [], _ => exact Nat.zero_le 1
  | [item], _ =>
      rw [List.flatMap_cons, List.flatMap_nil, List.append_nil]
      exact each item
  | _ :: _ :: _, few => simp at few

theorem ledTo_length (serials : state.Serials) (serial : Nat) :
    (state.ledTo serial).length ≤ 1 := by
  have once := serials.consumedOnce
  unfold ledTo
  rw [List.length_map]
  generalize state.consumed = consumed at once
  induction consumed with
  | nil => exact Nat.zero_le 1
  | cons entry rest inductionHypothesis =>
      rw [List.map_cons, List.nodup_cons] at once
      rw [List.filter_cons]
      by_cases same : entry.invitation.serial = serial
      · rw [if_pos (decide_eq_true same)]
        have others : rest.filter (fun other =>
            decide (other.invitation.serial = serial)) = [] := by
          rw [List.filter_eq_nil_iff]
          intro other member isSame
          apply once.1
          rw [same, ← of_decide_eq_true isSame]
          exact List.mem_map.mpr ⟨other, member, rfl⟩
        rw [others]
        exact Nat.le_refl 1
      · rw [if_neg (by simpa using same)]
        exact inductionHypothesis once.2

theorem mem_view_consumed {session : PairingSessionId}
    {entry : Consumption} :
    entry ∈ (state.view session).consumed ↔
      entry ∈ state.consumed ∧ entry.session = session := by
  simp [view]

theorem mem_view_verifications {session : PairingSessionId}
    {verification : Verification} :
    verification ∈ (state.view session).verifications ↔
      verification ∈ state.verifications ∧
        verification.session = session := by
  simp [view]

theorem mem_view_admitted {session : PairingSessionId}
    {record : RecordWritten} :
    record ∈ (state.view session).admitted ↔
      record ∈ state.admitted ∧ record.session = session := by
  simp [view]

theorem mem_messagesOf {session : PairingSessionId}
    {message : PairingSessionMessage}
    {log : List (PairingSessionId × PairingSessionMessage)} :
    message ∈ messagesOf session log ↔ (session, message) ∈ log := by
  unfold messagesOf
  rw [List.mem_map]
  constructor
  · rintro ⟨⟨sender, sent⟩, member, same⟩
    obtain ⟨inLog, isSession⟩ := List.mem_filter.mp member
    have sameSession : sender = session := of_decide_eq_true isSession
    have sameMessage : sent = message := same
    rw [← sameSession, ← sameMessage]
    exact inLog
  · intro member
    exact ⟨_, List.mem_filter.mpr ⟨member, decide_eq_true rfl⟩, rfl⟩

theorem mem_view_offers {session : PairingSessionId}
    {offer : SponsorKeyslotOffer} :
    offer ∈ (state.view session).offers ↔
      (session, .keyslotOffer offer) ∈ state.sent := by
  rw [← mem_messagesOf]
  unfold SessionView.offers
  rw [List.mem_filterMap]
  constructor
  · rintro ⟨message, member, isOffer⟩
    cases message with
    | keyslotOffer other =>
        cases isOffer
        exact member
    | _ => cases isOffer
  · intro member
    exact ⟨_, member, rfl⟩

theorem proof_of_verified {unlocked : Bool} {ctx : SessionCtx}
    {proof : List UInt8}
    (verified : env.verifyProof unlocked ctx proof = true) :
    proof = computeHmac env.crypto ctx.coreSessionId ctx.spaceId
      ctx.challengeNonce env.masterKey := by
  unfold SponsorEnv.verifyProof at verified
  rw [Bool.and_eq_true] at verified
  exact of_decide_eq_true verified.2

/-- Whatever is issued, cancelled and received in whatever order, an invitation
leads to one offer and one verification at most, and a device is admitted only
in a session that consumed a pending invitation and whose proof verified
against the nonce it was offered. -/
theorem oneGuess_perInvitation (env : SponsorEnv) (members : Members)
    (trustedPeers : TrustedPeers) (state : Sponsor)
    (run : Run (step env) anyAction (boot members trustedPeers) state) :
    (∀ serial, (state.offersFor serial).length ≤ 1 ∧
      (state.guessesFor serial).length ≤ 1) ∧
    (∀ session offer, (session, .keyslotOffer offer) ∈ state.sent →
      ∃ entry ∈ state.consumed, entry.session = session) ∧
    (∀ verification ∈ state.verifications,
      ∃ entry ∈ state.consumed, entry.session = verification.session) ∧
    ∀ record ∈ state.admitted,
      ∃ entry ∈ state.consumed, entry.session = record.session ∧
        Took env (boot members trustedPeers) state entry ∧
        SessionView.Names record entry.request ∧
        ∃ offer, (record.session, .keyslotOffer offer) ∈ state.sent ∧
          ∃ verification ∈ state.verifications,
            verification.session = record.session ∧
            verification.verified = true ∧
            offer.challenge = verification.nonce.bytes ∧
            verification.proof = computeHmac env.crypto record.session
              offer.spaceId verification.nonce env.masterKey := by
  have sound : ∀ session, (state.view session).Sound env False session :=
    fun session => (outlined_run session (fun _ _ _ impossible =>
      impossible.elim) run).sound
  have serials := serials_run serials_boot run
  have someConsumed : ∀ session, (state.view session).consumed ≠ [] →
      ∃ entry ∈ state.consumed, entry.session = session := by
    intro session consumed
    obtain ⟨entry, member⟩ := List.exists_mem_of_ne_nil _ consumed
    exact ⟨entry, mem_view_consumed.mp member⟩
  refine ⟨?_, ?_, ?_, ?_⟩
  · intro serial
    constructor
    · exact length_flatMap_le (ledTo_length serials serial)
        fun session => (sound session).offeredOnce
    · exact length_flatMap_le (ledTo_length serials serial)
        fun session => (sound session).verifiedOnce
  · intro session offer sent
    apply someConsumed
    exact ((sound session).offered offer (mem_view_offers.mpr sent)).1
  · intro verification member
    apply someConsumed
    apply (sound verification.session).verified
    exact List.ne_nil_of_mem (mem_view_verifications.mpr ⟨member, rfl⟩)
  · intro record member
    have inView : record ∈ (state.view record.session).admitted ++
        (state.view record.session).trusted :=
      List.mem_append_left _ (mem_view_admitted.mpr ⟨member, rfl⟩)
    obtain ⟨entry, isConsumed, offer, isOffered, verification, isVerified, ctx,
      proven, names⟩ := (sound record.session).recorded record inView
    obtain ⟨consumed, sameSession⟩ := mem_view_consumed.mp isConsumed
    obtain ⟨noted, ofSession⟩ := mem_view_verifications.mp isVerified
    obtain ⟨unlocked, verified⟩ := proven.verified
    have nonce : verification.nonce = ctx.challengeNonce := by
      rw [proven.noted]
    have hmac := proof_of_verified verified
    refine ⟨entry, consumed, sameSession, took_of_consumed rfl run entry
      consumed, names, offer, mem_view_offers.mp isOffered, verification,
      noted, ofSession, ?_, ?_, ?_⟩
    · rw [proven.noted]
    · rw [nonce]
      exact proven.fits.nonce
    · rw [hmac, proven.fits.coreSession, proven.fits.space, nonce]

end Guesses

/-! ## A pairing that goes well -/

namespace Sample

open JoinerRun.Sample

def env : SponsorEnv where
  deviceId := { asStr := "host" }
  spaceId := ⟨"home"⟩
  masterKey := sampleKey 8
  crypto := crypto

def session : PairingSessionId := ⟨"host:0"⟩

def request : JoinerRequest where
  invitationCode := ⟨"WXYZ-9876"⟩
  deviceId := { asStr := "guest" }
  deviceName := "Guest"
  identityFingerprint := ⟨"GUESTGUESTGUEST1", by decide⟩
  nonce := []
  transportAddressBlob := []

def nonce : Digest :=
  ⟨List.replicate 32 3, rfl⟩

def facts : SponsorFacts where
  deviceName := "Host"
  identityFingerprint := ⟨"HOSTHOSTHOSTHOST", by decide⟩
  transportAddressBlob := []
  spacePersonId := none

def pairing : List SponsorAction :=
  [.issue ⟨"WXYZ-9876"⟩ 0 1000,
    .accept session ⟨"guest key"⟩ (.request request), .takeEvent,
    .matchInvitation (some 10),
    .begin (some (some ⟨"home"⟩)) ⟨"unused"⟩ (.ok ([], nonce)),
    .sendOffer false, .armTimeout,
    .frame session (.challengeResponse
      ⟨computeHmac crypto session ⟨"home"⟩ nonce (sampleKey 8)⟩),
    .takeEvent, .verify true, .admitMember (some 20) none, .trustPeer none,
    .confirm, .sendConfirm (some facts) false, .close]

def paired : Sponsor :=
  (execute (step env) (boot ∅ ∅) pairing).getD (boot ∅ ∅)

theorem paired_executed :
    execute (step env) (boot ∅ ∅) pairing = some paired := by
  have succeeds : (execute (step env) (boot ∅ ∅) pairing).isSome = true := by
    decide +kernel
  obtain ⟨finish, executed⟩ := Option.isSome_iff_exists.mp succeeds
  rw [paired, executed]
  rfl

end Sample

theorem oneGuess_perInvitation_paired :
    (Sample.paired.admitted.map RecordWritten.deviceId =
      [Sample.request.deviceId]) ∧
    ∀ serial, (Sample.paired.offersFor serial).length ≤ 1 ∧
      (Sample.paired.guessesFor serial).length ≤ 1 :=
  And.intro (by decide +kernel)
    (oneGuess_perInvitation Sample.env ∅ ∅ Sample.paired
      (Run.ofExecute (guarded_anyAction _ _ _) Sample.paired_executed)).1

end Sponsor

end OpenClipboard.Pairing
