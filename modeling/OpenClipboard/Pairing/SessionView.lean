import OpenClipboard.Pairing.Sponsor

/-!
# One session of the sponsor

What the sponsor holds of one session, and what can happen to it.  A step of
the sponsor leaves the view of a session alone or is one of the steps listed
here, whatever the other sessions, the invitations and the peers do.
-/

namespace OpenClipboard.Pairing

def Handling.session : Handling → Option PairingSessionId
  | .idle => none
  | .matching session _ => some session
  | .offering session _ => some session
  | .sendingOffer session _ => some session
  | .unparking session => some session
  | .arming session => some session
  | .verifying session _ _ => some session
  | .admitting session _ => some session
  | .trusting session _ _ => some session
  | .confirming session => some session
  | .sendingConfirm session _ => some session
  | .rejecting session _ => some session
  | .sendingReject session _ => some session
  | .closing session => some session

def Handling.focus (handling : Handling) (session : PairingSessionId) :
    Option Handling :=
  if handling.session = some session then some handling else none

def isBegun (session : PairingSessionId) (begun : List PairingSessionId) :
    Bool :=
  decide (session ∈ begun)

def messagesOf (session : PairingSessionId)
    (log : List (PairingSessionId × PairingSessionMessage)) :
    List PairingSessionMessage :=
  (log.filter fun entry => decide (entry.1 = session)).map Prod.snd

/-- What the sponsor holds of one session; `handling` is there while the event
loop is at the session. -/
structure SessionView where
  begun : Bool
  handling : Option Handling
  ctx : Option SessionCtx
  watchdog : Option Watchdog
  received : List PairingSessionMessage
  sent : List PairingSessionMessage
  consumed : List Consumption
  verifications : List Verification
  admitted : List RecordWritten
  trusted : List RecordWritten

namespace Sponsor

def view (state : Sponsor) (session : PairingSessionId) : SessionView where
  begun := isBegun session state.begun
  handling := state.handling.focus session
  ctx := state.sessions.find session
  watchdog := state.watchdogs.find session
  received := messagesOf session state.received
  sent := messagesOf session state.sent
  consumed := state.consumed.filter fun entry =>
    decide (entry.session = session)
  verifications := state.verifications.filter fun entry =>
    decide (entry.session = session)
  admitted := state.admitted.filter fun entry =>
    decide (entry.session = session)
  trusted := state.trusted.filter fun entry =>
    decide (entry.session = session)

end Sponsor

/-! ## The steps of a session -/

namespace SessionView

/-- The watchdog after its context is taken out by the event loop. -/
def disarmed (view : SessionView) (ctx : SessionCtx) : Option Watchdog :=
  if ctx.timerAbort then none else view.watchdog

/-- No context, and no watchdog that was armed for it. -/
def withoutCtx (view : SessionView) : SessionView :=
  match view.ctx with
  | none => view
  | some ctx => { view with ctx := none, watchdog := view.disarmed ctx }

def withSent (view : SessionView) (message : PairingSessionMessage)
    (delivered : Bool) : SessionView :=
  if delivered then { view with sent := view.sent ++ [message] } else view

/-- What happens to a session.  If `punctual` holds, the sponsor offers its own
space, the watchdog does not fire while the event loop is at the session, and
the peer is trusted once it is a member. -/
inductive Step (env : SponsorEnv) (punctual : Prop)
    (session : PairingSessionId) (view : SessionView) :
    SessionView → Prop
  | hear (message : PairingSessionMessage) :
      Step env punctual session view
        { view with received := view.received ++ [message] }
  | opened (message : PairingSessionMessage) (handling : Handling) :
      view.begun = false →
      view.received.head? = some message →
      (handling.session = some session ∧
        (handling = .rejecting session
            (.internal "expected Request as first pairing message") ∨
          ∃ request, message = .request request ∧
            handling = .matching session request)) →
      Step env punctual session view
        { view with begun := true, handling := some handling }
  | consume (request : JoinerRequest) (invitation : PairingInvitation)
      (now : Int) :
      view.handling = some (.matching session request) →
      Step env punctual session view
        { view with
          consumed := ⟨invitation, session, request, now⟩ :: view.consumed
          handling := some (.offering session request) }
  | mismatch (request : JoinerRequest) (reason : PairingRejectReason) :
      view.handling = some (.matching session request) →
      Step env punctual session view
        { view with handling := some (.rejecting session reason) }
  | offer (request : JoinerRequest) (spaceId : SpaceId) (blob : List UInt8)
      (nonce : Digest) :
      view.handling = some (.offering session request) →
      (punctual → spaceId = env.spaceId) →
      Step env punctual session view
        { view with
          ctx := some ⟨spaceId, nonce, session, request.facts, false⟩
          handling := some (.sendingOffer session
            ⟨spaceId, blob, nonce.bytes, session⟩) }
  | offerFails (request : JoinerRequest) (reason : PairingRejectReason) :
      view.handling = some (.offering session request) →
      Step env punctual session view
        { view with handling := some (.sendingReject session reason) }
  | offerSent (offer : SponsorKeyslotOffer) :
      view.handling = some (.sendingOffer session offer) →
      Step env punctual session view
        { view with
          sent := view.sent ++ [.keyslotOffer offer]
          handling := some (.arming session) }
  | offerLost (offer : SponsorKeyslotOffer) :
      view.handling = some (.sendingOffer session offer) →
      Step env punctual session view
        { view with handling := some (.unparking session) }
  | unpark :
      view.handling = some (.unparking session) →
      Step env punctual session view
        { view.withoutCtx with handling := some (.closing session) }
  | armNothing :
      view.handling = some (.arming session) →
      view.ctx = none →
      Step env punctual session view { view with handling := none }
  | arm (ctx : SessionCtx) :
      view.handling = some (.arming session) →
      view.ctx = some ctx →
      Step env punctual session view
        { view with
          ctx := some { ctx with timerAbort := true }
          watchdog := some .sleeping
          handling := none }
  | respond (ctx : SessionCtx) (response : JoinerChallengeResponse) :
      view.handling = none →
      view.ctx = some ctx →
      .challengeResponse response ∈ view.received →
      Step env punctual session view
        { view with handling := some (.verifying session ctx response) }
  | closed :
      view.handling = none →
      Step env punctual session view view.withoutCtx
  | verify (unlocked : Bool) (ctx : SessionCtx)
      (response : JoinerChallengeResponse) :
      view.handling = some (.verifying session ctx response) →
      Step env punctual session view
        { view with
          verifications := ⟨session, ctx.challengeNonce,
            response.encryptedChallenge,
            env.verifyProof unlocked ctx response.encryptedChallenge⟩ ::
              view.verifications
          handling :=
            if env.verifyProof unlocked ctx response.encryptedChallenge then
              some (.admitting session ctx.joiner)
            else
              some (.rejecting session .passphraseMismatch) }
  | admitMember (facts : JoinerFacts) (now : Int)
      (replaced : Option IdentityFingerprint) :
      view.handling = some (.admitting session facts) →
      Step env punctual session view
        { view with
          admitted := ⟨session, facts.deviceId, facts.identityFingerprint,
            replaced⟩ :: view.admitted
          handling := some (.trusting session facts now) }
  | admitFails (facts : JoinerFacts) (reason : PairingRejectReason) :
      view.handling = some (.admitting session facts) →
      Step env punctual session view
        { view with handling := some (.rejecting session reason) }
  | trustPeer (facts : JoinerFacts) (now : Int)
      (replaced : Option IdentityFingerprint) :
      view.handling = some (.trusting session facts now) →
      Step env punctual session view
        { view with
          trusted := ⟨session, facts.deviceId, facts.identityFingerprint,
            replaced⟩ :: view.trusted
          handling := some (.confirming session) }
  | trustFails (facts : JoinerFacts) (now : Int)
      (reason : PairingRejectReason) :
      ¬ punctual →
      view.handling = some (.trusting session facts now) →
      Step env punctual session view
        { view with handling := some (.rejecting session reason) }
  | confirmNothing :
      view.handling = some (.confirming session) →
      view.ctx = none →
      Step env punctual session view { view with handling := none }
  | confirm (ctx : SessionCtx) :
      view.handling = some (.confirming session) →
      view.ctx = some ctx →
      Step env punctual session view
        { view.withoutCtx with handling := some (.sendingConfirm session ctx) }
  | confirmSent (ctx : SessionCtx) (confirm : SponsorConfirm) :
      view.handling = some (.sendingConfirm session ctx) →
      confirm.spaceId = ctx.spaceId →
      confirm.senderDeviceId = env.deviceId →
      Step env punctual session view
        { view with
          sent := view.sent ++ [.confirm confirm]
          handling := some (.closing session) }
  | confirmLost (ctx : SessionCtx) :
      view.handling = some (.sendingConfirm session ctx) →
      Step env punctual session view { view with handling := none }
  | reject (reason : PairingRejectReason) :
      view.handling = some (.rejecting session reason) →
      Step env punctual session view
        { view.withoutCtx with
          handling := some (.sendingReject session reason) }
  | sendReject (reason : PairingRejectReason) (delivered : Bool) :
      view.handling = some (.sendingReject session reason) →
      Step env punctual session view
        { view.withSent (.reject reason) delivered with
          handling := some (.closing session) }
  | close :
      view.handling = some (.closing session) →
      Step env punctual session view { view with handling := none }
  | wakeLate :
      view.watchdog = some .sleeping →
      view.ctx = none →
      Step env punctual session view { view with watchdog := none }
  | fire (ctx : SessionCtx) :
      view.watchdog = some .sleeping →
      view.ctx = some ctx →
      (punctual → view.handling = none) →
      Step env punctual session view
        { view with ctx := none, watchdog := some .firing }
  | watchdogSend (delivered : Bool) :
      view.watchdog = some .firing →
      Step env punctual session view
        { view.withSent (.reject .timeout) delivered with
          watchdog := some .closing }
  | watchdogClose :
      view.watchdog = some .closing →
      Step env punctual session view { view with watchdog := none }

end SessionView

/-! ## The steps of the sponsor, seen from a session -/

variable {handling : Handling} {begun : List PairingSessionId}
  {message : PairingSessionMessage} {fails : Bool}

theorem focus_self {session : PairingSessionId}
    (atSession : handling.session = some session) :
    handling.focus session = some handling := by
  rw [Handling.focus, if_pos atSession]

theorem focus_other {session : PairingSessionId}
    (elsewhere : handling.session ≠ some session) :
    handling.focus session = none := by
  rw [Handling.focus, if_neg elsewhere]

theorem isBegun_eq_false {session : PairingSessionId} :
    isBegun session begun = false ↔ session ∉ begun := by
  simp [isBegun]

theorem isBegun_self {session : PairingSessionId} :
    isBegun session (session :: begun) = true := by
  simp [isBegun]

theorem isBegun_other {session other : PairingSessionId}
    (different : other ≠ session) :
    isBegun other (session :: begun) = isBegun other begun := by
  simp [isBegun, different]

theorem messagesOf_append (session : PairingSessionId)
    (first second : List (PairingSessionId × PairingSessionMessage)) :
    messagesOf session (first ++ second) =
      messagesOf session first ++ messagesOf session second := by
  simp [messagesOf]

theorem messagesOf_self (session : PairingSessionId)
    (message : PairingSessionMessage) :
    messagesOf session [(session, message)] = [message] := by
  simp [messagesOf]

theorem messagesOf_other {session other : PairingSessionId}
    (different : other ≠ session) (message : PairingSessionMessage) :
    messagesOf other [(session, message)] = [] := by
  simp [messagesOf, different.symm]

/-- What the handshakes need to agree: the sponsor offers its own space, no
watchdog takes the context of the session that the event loop is at, and the
peer that was made a member is trusted. -/
def Punctual (env : SponsorEnv) (state : Sponsor) : SponsorAction → Prop
  | .begin status _ _ => status = some (some env.spaceId)
  | .trustPeer failure => failure = none
  | .fireTimeout session => state.handling.session = some session →
      state.sessions.find session = none
  | _ => True

namespace Sponsor

/-- The view of a session stays or takes a step. -/
def Seen (env : SponsorEnv) (punctual : Prop) (session : PairingSessionId)
    (before after : Sponsor) : Prop :=
  after.view session = before.view session ∨
    SessionView.Step env punctual session (before.view session)
      (after.view session)

def opening : PairingSessionEvent → Option PairingSessionId
  | .incoming session _ => some session
  | _ => none

/-- A queued first message is that of a session not begun, and no session is
queued twice; whatever is queued was received; of a session not accepted there
is nothing. -/
structure Queued (state : Sponsor) : Prop where
  first : ∀ session message, .incoming session message ∈ state.events →
    session ∉ state.begun ∧
      (messagesOf session state.received).head? = some message
  heard : ∀ session message,
    .messageReceived session message ∈ state.events →
      message ∈ messagesOf session state.received
  once : (state.events.filterMap opening).Nodup
  unknown : ∀ session, state.accepted.find session = none →
    session ∉ state.begun ∧ messagesOf session state.received = []

section Seen

variable {env : SponsorEnv} {punctual : Prop} {state : Sponsor}
  {session other : PairingSessionId}

theorem view_handling (handled : state.handling.session = some session) :
    (state.view session).handling = some state.handling :=
  focus_self handled

theorem seen_accept {remote : EndpointId} :
    Seen env punctual other state (state.accept session remote message) := by
  by_cases same : other = session
  · subst same
    apply Or.inr
    have next : SessionView.Step env punctual other (state.view other) _ :=
      .hear message
    simpa [view, accept, messagesOf_append, messagesOf_self] using next
  · apply Or.inl
    simp [view, accept, messagesOf_append, messagesOf_other same]

theorem seen_frame :
    Seen env punctual other state (state.frame session message) := by
  by_cases same : other = session
  · subst same
    apply Or.inr
    have next : SessionView.Step env punctual other (state.view other) _ :=
      .hear message
    simpa [view, frame, messagesOf_append, messagesOf_self] using next
  · apply Or.inl
    simp [view, frame, messagesOf_append, messagesOf_other same]

theorem view_dropCtx :
    (state.dropCtx session).view other =
      if other = session then (state.view other).withoutCtx
      else state.view other := by
  unfold dropCtx
  by_cases same : other = session
  · subst same
    rw [if_pos rfl]
    cases parked : state.sessions.find other with
    | none => simp [view, SessionView.withoutCtx, parked]
    | some ctx =>
        cases armed : ctx.timerAbort with
        | false =>
            simp [view, SessionView.withoutCtx, SessionView.disarmed, parked,
              armed]
        | true =>
            simp [view, SessionView.withoutCtx, SessionView.disarmed, parked,
              armed]
  · rw [if_neg same]
    cases parked : state.sessions.find session with
    | none => rfl
    | some ctx =>
        cases armed : ctx.timerAbort with
        | false => simp [view, Table.find_remove, same, armed]
        | true => simp [view, Table.find_remove, same, armed]

theorem view_send :
    (state.send session message fails).view other =
      if other = session then
        (state.view other).withSent message (state.delivers session fails)
      else state.view other := by
  unfold send
  cases delivered : state.delivers session fails with
  | false => simp [SessionView.withSent]
  | true =>
      by_cases same : other = session
      · subst same
        simp [view, SessionView.withSent, messagesOf_append, messagesOf_self]
      · simp [view, same, messagesOf_append, messagesOf_other same]

theorem view_withHandling :
    ({ state with handling := handling } : Sponsor).view other =
      { state.view other with
        handling := handling.focus other } := rfl

theorem seen_handle {event : PairingSessionEvent}
    {rest : List PairingSessionEvent} (queued : state.Queued)
    (idle : state.handling = .idle) (due : state.events = event :: rest) :
    Seen env punctual other state (state.handle event rest) := by
  have here : event ∈ state.events := by
    rw [due]
    exact List.mem_cons_self
  cases event with
  | incoming session message =>
      have first := queued.first session message here
      by_cases same : other = session
      · subst same
        apply Or.inr
        have notBegun : (state.view other).begun = false := by
          exact isBegun_eq_false.mpr first.1
        cases message with
        | request request =>
            have next : SessionView.Step env punctual other
                (state.view other) _ :=
              .opened (.request request)
              (.matching other request) notBegun first.2
              ⟨rfl, Or.inr ⟨request, rfl, rfl⟩⟩
            simpa [view, handle, isBegun_self, Handling.focus,
              Handling.session] using next
        | _ =>
            have next : SessionView.Step env punctual other
                (state.view other) _ :=
              .opened _
              (.rejecting other
                (.internal "expected Request as first pairing message"))
              notBegun first.2 ⟨rfl, Or.inl rfl⟩
            simpa [view, handle, isBegun_self, Handling.focus,
              Handling.session] using next
      · apply Or.inl
        have apart : session ≠ other := fun equal => same equal.symm
        cases message with
        | _ => simp [view, handle, isBegun_other same, Handling.focus,
              Handling.session, idle, apart]
  | messageReceived session message =>
      have heard := queued.heard session message here
      cases message with
      | challengeResponse response =>
          simp only [handle]
          cases parked : state.sessions.find session with
          | none => exact Or.inl rfl
          | some ctx =>
              by_cases same : other = session
              · subst same
                apply Or.inr
                have next : SessionView.Step env punctual other
                    (state.view other) _ :=
                  .respond ctx response
                  (by simp [view, idle, Handling.focus, Handling.session])
                  parked heard
                simpa [view, Handling.focus, Handling.session] using next
              · apply Or.inl
                have apart : session ≠ other := fun equal => same equal.symm
                simp [view, Handling.focus, Handling.session, idle, apart]
      | _ => exact Or.inl rfl
  | closed session =>
      have dropped : (handle state (.closed session) rest).view other =
          if other = session then (state.view other).withoutCtx
          else state.view other :=
        view_dropCtx
      by_cases same : other = session
      · rw [if_pos same] at dropped
        apply Or.inr
        rw [dropped]
        apply SessionView.Step.closed
        simp [view, idle, Handling.focus, Handling.session]
      · rw [if_neg same] at dropped
        exact Or.inl dropped

theorem seen_matchInvitation {request : JoinerRequest} {now : Option Int}
    (handled : state.handling = .matching session request) :
    Seen env punctual other state
      (state.matchInvitation session request now) := by
  by_cases same : other = session
  · subst same
    apply Or.inr
    have atSession : (state.view other).handling =
        some (.matching other request) := by
      rw [view_handling (by rw [handled]; rfl), handled]
    have refused : ∀ reason, SessionView.Step env punctual other
        (state.view other) { state.view other with
          handling := some (.rejecting other reason) } :=
      fun reason => .mismatch request reason atSession
    unfold matchInvitation
    split
    · have next := refused (.internal "sponsor clock out of range")
      simpa [view, Handling.focus, Handling.session] using next
    · split
      · rename_i now _ invitation _ _
        have next : SessionView.Step env punctual other (state.view other) _ :=
          .consume request invitation now atSession
        simpa [view, Handling.focus, Handling.session] using next
      · rename_i message _ _
        have next := refused (.internal message)
        simpa [view, Handling.focus, Handling.session] using next
      · have next := refused .invitationMismatch
        simpa [view, Handling.focus, Handling.session] using next
  · apply Or.inl
    have apart : session ≠ other := fun equal => same equal.symm
    unfold matchInvitation
    split
    · simp [view, Handling.focus, Handling.session, handled, apart]
    · split
      · simp [view, Handling.focus, Handling.session, handled, apart]
      · simp [view, Handling.focus, Handling.session, handled, apart]
      · simp [view, Handling.focus, Handling.session, handled, apart]

theorem seen_begin {request : JoinerRequest}
    {status : Option (Option SpaceId)} {freshSpaceId : SpaceId}
    {offer : Except SpaceAccessError (List UInt8 × Digest)}
    (own : punctual → status = some (some env.spaceId))
    (handled : state.handling = .offering session request) :
    Seen env punctual other state
      (state.begin session request status freshSpaceId offer) := by
  have atSession : (state.view session).handling =
      some (.offering session request) := by
    rw [view_handling (by rw [handled]; rfl), handled]
  by_cases same : other = session
  · subst same
    apply Or.inr
    cases offer with
    | error error =>
        have next : SessionView.Step env punctual other (state.view other) _ :=
          .offerFails request
          (.internal ("prepare_join_offer: " ++ error.display)) atSession
        simpa [view, begin, Handling.focus, Handling.session] using next
    | ok prepared =>
        have ownSpace : punctual →
            (status.getD none).getD freshSpaceId = env.spaceId := by
          intro held
          rw [own held]
          rfl
        have next : SessionView.Step env punctual other (state.view other) _ :=
          .offer request _ prepared.1
          prepared.2 atSession ownSpace
        simpa [view, begin, Handling.focus, Handling.session] using next
  · apply Or.inl
    have apart : session ≠ other := fun equal => same equal.symm
    cases offer with
    | error error =>
        simp [view, begin, Handling.focus, Handling.session, handled, apart]
    | ok prepared =>
        simp [view, begin, Handling.focus, Handling.session, handled, apart,
          Table.find_put_of_ne same]

theorem seen_sendOffer {offer : SponsorKeyslotOffer}
    (handled : state.handling = .sendingOffer session offer) :
    Seen env punctual other state (state.sendOffer session offer fails) := by
  have atSession : (state.view session).handling =
      some (.sendingOffer session offer) := by
    rw [view_handling (by rw [handled]; rfl), handled]
  unfold Seen sendOffer
  rw [view_withHandling, view_send]
  by_cases same : other = session
  · subst same
    apply Or.inr
    cases delivered : state.delivers other fails with
    | false =>
        have next : SessionView.Step env punctual other (state.view other) _ :=
          .offerLost offer atSession
        simpa [SessionView.withSent, Handling.focus, Handling.session]
          using next
    | true =>
        have next : SessionView.Step env punctual other (state.view other) _ :=
          .offerSent offer atSession
        simpa [SessionView.withSent, Handling.focus, Handling.session]
          using next
  · apply Or.inl
    have apart : session ≠ other := fun equal => same equal.symm
    cases delivered : state.delivers session fails with
    | false =>
        simp [view, same, apart, handled, Handling.focus, Handling.session]
    | true =>
        simp [view, same, apart, handled, Handling.focus, Handling.session]

theorem seen_unpark (handled : state.handling = .unparking session) :
    Seen env punctual other state
      { state.dropCtx session with handling := .closing session } := by
  have atSession : (state.view session).handling =
      some (.unparking session) := by
    rw [view_handling (by rw [handled]; rfl), handled]
  unfold Seen
  rw [view_withHandling, view_dropCtx]
  by_cases same : other = session
  · subst same
    apply Or.inr
    have next : SessionView.Step env punctual other (state.view other) _ :=
      .unpark atSession
    simpa [Handling.focus, Handling.session] using next
  · apply Or.inl
    have apart : session ≠ other := fun equal => same equal.symm
    simp [view, same, apart, handled, Handling.focus, Handling.session]

theorem seen_armTimeout (handled : state.handling = .arming session) :
    Seen env punctual other state (state.armTimeout session) := by
  have atSession : (state.view session).handling = some (.arming session) := by
    rw [view_handling (by rw [handled]; rfl), handled]
  unfold armTimeout
  by_cases same : other = session
  · subst same
    apply Or.inr
    cases parked : state.sessions.find other with
    | none =>
        have next : SessionView.Step env punctual other (state.view other) _ :=
          .armNothing atSession parked
        simpa [view, Handling.focus, Handling.session] using next
    | some ctx =>
        have next : SessionView.Step env punctual other (state.view other) _ :=
          .arm ctx atSession parked
        simpa [view, Handling.focus, Handling.session] using next
  · apply Or.inl
    have apart : session ≠ other := fun equal => same equal.symm
    cases parked : state.sessions.find session with
    | none => simp [view, apart, handled, Handling.focus, Handling.session]
    | some ctx =>
        simp [view, apart, handled, Handling.focus, Handling.session,
          Table.find_put_of_ne same]

theorem seen_verify {unlocked : Bool} {ctx : SessionCtx}
    {response : JoinerChallengeResponse}
    (handled : state.handling = .verifying session ctx response) :
    Seen env punctual other state
      (state.verify env unlocked session ctx response) := by
  have atSession : (state.view session).handling =
      some (.verifying session ctx response) := by
    rw [view_handling (by rw [handled]; rfl), handled]
  unfold verify
  by_cases same : other = session
  · subst same
    apply Or.inr
    have next : SessionView.Step env punctual other (state.view other) _ :=
      .verify unlocked ctx response atSession
    cases verified : env.verifyProof unlocked ctx
        response.encryptedChallenge with
    | false =>
        rw [verified] at next
        simpa [view, Handling.focus, Handling.session] using next
    | true =>
        rw [verified] at next
        simpa [view, Handling.focus, Handling.session] using next
  · apply Or.inl
    have apart : session ≠ other := fun equal => same equal.symm
    cases verified : env.verifyProof unlocked ctx
        response.encryptedChallenge with
    | false => simp [view, apart, handled, Handling.focus, Handling.session]
    | true => simp [view, apart, handled, Handling.focus, Handling.session]

theorem seen_admitMember {facts : JoinerFacts} {now : Option Int}
    {failure : Option String}
    (handled : state.handling = .admitting session facts) :
    Seen env punctual other state
      (state.admitMember session facts now failure) := by
  have atSession : (state.view session).handling =
      some (.admitting session facts) := by
    rw [view_handling (by rw [handled]; rfl), handled]
  have refused : ∀ reason, SessionView.Step env punctual session
      (state.view session) { state.view session with
        handling := some (.rejecting session reason) } :=
    fun reason => .admitFails facts reason atSession
  unfold admitMember
  by_cases same : other = session
  · subst same
    apply Or.inr
    split
    · have next := refused (.internal "sponsor clock out of range")
      simpa [view, Handling.focus, Handling.session] using next
    · rename_i error
      have next := refused (.internal ("admit_member: " ++ error))
      simpa [view, Handling.focus, Handling.session] using next
    · rename_i now
      have next : SessionView.Step env punctual other (state.view other) _ :=
        .admitMember facts now
        ((state.members.find facts.deviceId).map Member.identityFingerprint)
        atSession
      simpa [view, Handling.focus, Handling.session] using next
  · apply Or.inl
    have apart : session ≠ other := fun equal => same equal.symm
    split
    · simp [view, apart, handled, Handling.focus, Handling.session]
    · simp [view, apart, handled, Handling.focus, Handling.session]
    · simp [view, apart, handled, Handling.focus, Handling.session]

theorem seen_trustPeer {facts : JoinerFacts} {now : Int}
    {failure : Option String} (succeeds : punctual → failure = none)
    (handled : state.handling = .trusting session facts now) :
    Seen env punctual other state
      (state.trustPeer env session facts now failure) := by
  have atSession : (state.view session).handling =
      some (.trusting session facts now) := by
    rw [view_handling (by rw [handled]; rfl), handled]
  by_cases same : other = session
  · subst same
    apply Or.inr
    cases failure with
    | none =>
        have next : SessionView.Step env punctual other (state.view other) _ :=
          .trustPeer facts now
          ((state.trustedPeers.find facts.deviceId).map
            TrustedPeer.peerFingerprint) atSession
        simpa [view, trustPeer, Handling.focus, Handling.session] using next
    | some error =>
        have unpunctual : ¬ punctual := by
          intro held
          have impossible := succeeds held
          cases impossible
        have next : SessionView.Step env punctual other (state.view other) _ :=
          .trustFails facts now
          (.internal ("trust_peer: " ++ error)) unpunctual atSession
        simpa [view, trustPeer, Handling.focus, Handling.session] using next
  · apply Or.inl
    have apart : session ≠ other := fun equal => same equal.symm
    cases failure with
    | none =>
        simp [view, trustPeer, apart, handled, Handling.focus,
          Handling.session]
    | some error =>
        simp [view, trustPeer, apart, handled, Handling.focus,
          Handling.session]

theorem seen_confirm (handled : state.handling = .confirming session) :
    Seen env punctual other state (state.confirm session) := by
  have atSession : (state.view session).handling =
      some (.confirming session) := by
    rw [view_handling (by rw [handled]; rfl), handled]
  unfold confirm
  cases parked : state.sessions.find session with
  | none =>
      by_cases same : other = session
      · subst same
        apply Or.inr
        have next : SessionView.Step env punctual other (state.view other) _ :=
          .confirmNothing atSession parked
        simpa [view, Handling.focus, Handling.session] using next
      · apply Or.inl
        have apart : session ≠ other := fun equal => same equal.symm
        simp [view, apart, handled, Handling.focus, Handling.session]
  | some ctx =>
      unfold Seen
      dsimp only
      rw [view_withHandling, view_dropCtx]
      by_cases same : other = session
      · subst same
        apply Or.inr
        have next : SessionView.Step env punctual other (state.view other) _ :=
          .confirm ctx atSession parked
        simpa [Handling.focus, Handling.session] using next
      · apply Or.inl
        have apart : session ≠ other := fun equal => same equal.symm
        simp [view, same, apart, handled, Handling.focus, Handling.session]

theorem seen_sendConfirm {ctx : SessionCtx} {facts : Option SponsorFacts}
    (handled : state.handling = .sendingConfirm session ctx) :
    Seen env punctual other state
      (state.sendConfirm env session ctx facts fails) := by
  have atSession : (state.view session).handling =
      some (.sendingConfirm session ctx) := by
    rw [view_handling (by rw [handled]; rfl), handled]
  have lost : SessionView.Step env punctual session (state.view session) _ :=
    .confirmLost ctx atSession
  cases facts with
  | none =>
      by_cases same : other = session
      · subst same
        apply Or.inr
        simpa [view, sendConfirm, Handling.focus, Handling.session] using lost
      · apply Or.inl
        have apart : session ≠ other := fun equal => same equal.symm
        simp [view, sendConfirm, apart, handled, Handling.focus,
          Handling.session]
  | some facts =>
      unfold Seen sendConfirm
      dsimp only
      rw [view_withHandling, view_send]
      by_cases same : other = session
      · subst same
        apply Or.inr
        cases delivered : state.delivers other fails with
        | false =>
            simpa [SessionView.withSent, Handling.focus, Handling.session]
              using lost
        | true =>
            have next : SessionView.Step env punctual other
                (state.view other) _ :=
              .confirmSent ctx {
                spaceId := ctx.spaceId
                senderDeviceId := env.deviceId
                senderDeviceName := facts.deviceName
                senderIdentityFingerprint := facts.identityFingerprint
                transportAddressBlob := facts.transportAddressBlob
                sponsorSpacePersonId := facts.spacePersonId }
              atSession rfl rfl
            simpa [SessionView.withSent, Handling.focus, Handling.session]
              using next
      · apply Or.inl
        have apart : session ≠ other := fun equal => same equal.symm
        cases delivered : state.delivers session fails with
        | false =>
            simp [view, same, apart, handled, Handling.focus,
              Handling.session]
        | true =>
            simp [view, same, apart, handled, Handling.focus,
              Handling.session]

theorem seen_reject {reason : PairingRejectReason}
    (handled : state.handling = .rejecting session reason) :
    Seen env punctual other state
      { state.dropCtx session with
        handling := .sendingReject session reason } := by
  have atSession : (state.view session).handling =
      some (.rejecting session reason) := by
    rw [view_handling (by rw [handled]; rfl), handled]
  unfold Seen
  rw [view_withHandling, view_dropCtx]
  by_cases same : other = session
  · subst same
    apply Or.inr
    have next : SessionView.Step env punctual other (state.view other) _ :=
      .reject reason atSession
    simpa [Handling.focus, Handling.session] using next
  · apply Or.inl
    have apart : session ≠ other := fun equal => same equal.symm
    simp [view, same, apart, handled, Handling.focus, Handling.session]

theorem seen_sendReject {reason : PairingRejectReason}
    (handled : state.handling = .sendingReject session reason) :
    Seen env punctual other state
      { state.send session (.reject reason) fails with
        handling := .closing session } := by
  have atSession : (state.view session).handling =
      some (.sendingReject session reason) := by
    rw [view_handling (by rw [handled]; rfl), handled]
  unfold Seen
  rw [view_withHandling, view_send]
  by_cases same : other = session
  · subst same
    apply Or.inr
    have next : SessionView.Step env punctual other (state.view other) _ :=
      .sendReject reason (state.delivers other fails) atSession
    simpa [Handling.focus, Handling.session] using next
  · apply Or.inl
    have apart : session ≠ other := fun equal => same equal.symm
    simp [view, same, apart, handled, Handling.focus, Handling.session]

theorem seen_close (handled : state.handling = .closing session) :
    Seen env punctual other state
      { state.close session with handling := .idle } := by
  have atSession : (state.view session).handling = some (.closing session) := by
    rw [view_handling (by rw [handled]; rfl), handled]
  by_cases same : other = session
  · subst same
    apply Or.inr
    have next : SessionView.Step env punctual other (state.view other) _ :=
      .close atSession
    simpa [view, close, Handling.focus, Handling.session] using next
  · apply Or.inl
    have apart : session ≠ other := fun equal => same equal.symm
    simp [view, close, apart, handled, Handling.focus, Handling.session]

theorem seen_fireTimeout
    (away : punctual → state.handling.session = some session →
      state.sessions.find session = none)
    (asleep : state.watchdogs.find session = some .sleeping) :
    Seen env punctual other state (state.fireTimeout session) := by
  unfold fireTimeout
  cases parked : state.sessions.find session with
  | none =>
      by_cases same : other = session
      · subst same
        apply Or.inr
        have next : SessionView.Step env punctual other (state.view other) _ :=
          .wakeLate asleep parked
        simpa [view] using next
      · apply Or.inl
        simp [view, Table.find_remove, same]
  | some ctx =>
      by_cases same : other = session
      · subst same
        apply Or.inr
        have elsewhere : punctual → state.handling.session ≠ some other := by
          intro held handled
          have absent := away held handled
          rw [parked] at absent
          cases absent
        have next : SessionView.Step env punctual other (state.view other) _ :=
          .fire ctx asleep parked (fun held => focus_other (elsewhere held))
        simpa [view] using next
      · apply Or.inl
        simp [view, Table.find_remove, Table.find_put_of_ne, same]

theorem seen_watchdogSend (firing : state.watchdogs.find session = some .firing)
    :
    Seen env punctual other state
      { state.send session (.reject .timeout) fails with
        watchdogs := state.watchdogs.put session .closing } := by
  have sent : (state.send session (.reject .timeout) fails).view other =
      if other = session then
        (state.view other).withSent (.reject .timeout)
          (state.delivers session fails)
      else state.view other :=
    view_send
  have dogs : ({ state.send session (.reject .timeout) fails with
      watchdogs := state.watchdogs.put session .closing } : Sponsor).view
        other =
      { (state.send session (.reject .timeout) fails).view other with
        watchdog := (state.watchdogs.put session .closing).find other } := rfl
  unfold Seen
  rw [dogs, sent]
  by_cases same : other = session
  · subst same
    apply Or.inr
    have next : SessionView.Step env punctual other (state.view other) _ :=
      .watchdogSend (state.delivers other fails) firing
    simpa using next
  · apply Or.inl
    simp [view, same, Table.find_put_of_ne]

theorem seen_watchdogClose
    (closing : state.watchdogs.find session = some .closing) :
    Seen env punctual other state
      { state.close session with
        watchdogs := state.watchdogs.remove session } := by
  by_cases same : other = session
  · subst same
    apply Or.inr
    have next : SessionView.Step env punctual other (state.view other) _ :=
      .watchdogClose closing
    simpa [view, close] using next
  · apply Or.inl
    simp [view, close, Table.find_remove, same]

variable {action : SponsorAction} {next : Sponsor}

theorem seen_of_stepped (queued : state.Queued)
    (kept : punctual → Punctual env state action)
    (stepped : Stepped env state action next) :
    Seen env punctual other state next := by
  cases stepped with
  | issue code issuedAt expiresAt => exact Or.inl rfl
  | cancelAll => exact Or.inl rfl
  | accept session remote message isNew => exact seen_accept
  | frame session message known => exact seen_frame
  | hangUp session known => exact Or.inl rfl
  | takeEvent event rest idle due => exact seen_handle queued idle due
  | matchInvitation now session request handled =>
      exact seen_matchInvitation handled
  | begin status freshSpaceId offer session request handled =>
      exact seen_begin kept handled
  | sendOffer fails session offer handled => exact seen_sendOffer handled
  | unpark session handled => exact seen_unpark handled
  | armTimeout session handled => exact seen_armTimeout handled
  | verify unlocked session ctx response handled => exact seen_verify handled
  | admitMember now failure session facts handled =>
      exact seen_admitMember handled
  | trustPeer failure session facts now handled =>
      exact seen_trustPeer kept handled
  | confirm session handled => exact seen_confirm handled
  | sendConfirm facts fails session ctx handled =>
      exact seen_sendConfirm handled
  | reject session reason handled => exact seen_reject handled
  | sendReject fails session reason handled => exact seen_sendReject handled
  | close session handled => exact seen_close handled
  | fireTimeout session asleep => exact seen_fireTimeout kept asleep
  | watchdogSend session fails firing => exact seen_watchdogSend firing
  | watchdogClose session closing => exact seen_watchdogClose closing

end Seen

/-! ## The queue -/

section Queue

variable {env : SponsorEnv} {state next : Sponsor} {action : SponsorAction}

def SameQueue (before after : Sponsor) : Prop :=
  after.events = before.events ∧ after.received = before.received ∧
    after.begun = before.begun ∧ after.accepted = before.accepted

/-- No more is changed than what is kept of the sessions themselves. -/
def SessionsOnly (before after : Sponsor) : Prop :=
  after = { before with
    sessions := after.sessions, slots := after.slots
    handling := after.handling, watchdogs := after.watchdogs
    sent := after.sent, verifications := after.verifications }

theorem SessionsOnly.queue (only : SessionsOnly state next) :
    SameQueue state next := by
  unfold SessionsOnly at only
  refine ⟨?_, ?_, ?_, ?_⟩ <;> rw [only]

theorem SessionsOnly.trans {middle : Sponsor}
    (first : SessionsOnly state middle) (second : SessionsOnly middle next) :
    SessionsOnly state next := by
  unfold SessionsOnly at *
  rw [second, first]

theorem sessionsOnly_dropCtx (session : PairingSessionId) :
    SessionsOnly state (state.dropCtx session) := by
  unfold dropCtx
  split
  · rfl
  · rfl

theorem sessionsOnly_send (session : PairingSessionId)
    (message : PairingSessionMessage) (fails : Bool) :
    SessionsOnly state (state.send session message fails) := by
  unfold send
  split
  · rfl
  · rfl

theorem sessionsOnly_handle (event : PairingSessionEvent)
    (rest : List PairingSessionEvent) :
    SessionsOnly
      { state with
        events := rest, begun := (opening event).toList ++ state.begun }
      (state.handle event rest) := by
  cases event with
  | incoming session message =>
      cases message with
      | _ => rfl
  | messageReceived session message =>
      cases message with
      | challengeResponse response =>
          simp only [handle]
          split
          · rfl
          · rfl
      | _ => rfl
  | closed session =>
      have same : SessionsOnly { state with events := rest }
          (state.handle (.closed session) rest) :=
        sessionsOnly_dropCtx session
      exact same

theorem handle_queue (event : PairingSessionEvent)
    (rest : List PairingSessionEvent) :
    (state.handle event rest).events = rest ∧
      (state.handle event rest).received = state.received ∧
      (state.handle event rest).accepted = state.accepted ∧
      (state.handle event rest).begun =
        (opening event).toList ++ state.begun := by
  obtain ⟨events, received, begun, accepted⟩ :=
    (sessionsOnly_handle event rest).queue
  exact ⟨events, received, accepted, begun⟩

/-- A session goes on, with no invitation or record touched. -/
def goesOn : SponsorAction → Bool
  | .issue .. | .cancelAll | .accept .. | .frame .. | .hangUp _ | .takeEvent
  | .matchInvitation _ | .admitMember .. | .trustPeer _ => false
  | _ => true

theorem sessionsOnly_of_stepped (stepped : Stepped env state action next)
    (goes : goesOn action = true) : SessionsOnly state next := by
  cases stepped with
  | begin status freshSpaceId offer session request handled =>
      cases offer with
      | error error => rfl
      | ok prepared => rfl
  | armTimeout session handled =>
      unfold armTimeout
      split
      · rfl
      · rfl
  | fireTimeout session asleep =>
      unfold fireTimeout
      split
      · rfl
      · rfl
  | confirm session handled =>
      unfold confirm
      split
      · rfl
      · exact (sessionsOnly_dropCtx session).trans rfl
  | sendConfirm facts fails session ctx handled =>
      cases facts with
      | none => rfl
      | some facts => exact (sessionsOnly_send session _ _).trans rfl
  | sendOffer fails session offer handled =>
      exact (sessionsOnly_send session _ _).trans rfl
  | sendReject fails session reason handled =>
      exact (sessionsOnly_send session _ _).trans rfl
  | watchdogSend session fails firing =>
      exact (sessionsOnly_send session _ _).trans rfl
  | unpark session handled =>
      exact (sessionsOnly_dropCtx session).trans rfl
  | reject session reason handled =>
      exact (sessionsOnly_dropCtx session).trans rfl
  | verify unlocked session ctx response handled => rfl
  | close session handled => rfl
  | watchdogClose session closing => rfl
  | _ => cases goes

theorem queue_of_stepped (stepped : Stepped env state action next) :
    SameQueue state next ∨
      (∃ session remote message,
        action = .accept session remote message ∧
          state.accepted.find session = none ∧
          next = state.accept session remote message) ∨
      (∃ session message, (state.accepted.find session).isSome = true ∧
        next = state.frame session message) ∨
      (∃ session, next = state.hangUp session) ∨
      ∃ event rest, state.events = event :: rest ∧
        next = state.handle event rest := by
  have goes := sessionsOnly_of_stepped stepped
  cases stepped with
  | accept session remote message isNew =>
      exact Or.inr (Or.inl ⟨session, remote, message, rfl, isNew, rfl⟩)
  | frame session message known =>
      exact Or.inr (Or.inr (Or.inl ⟨session, message, known, rfl⟩))
  | hangUp session known =>
      exact Or.inr (Or.inr (Or.inr (Or.inl ⟨session, rfl⟩)))
  | takeEvent event rest idle due =>
      exact Or.inr (Or.inr (Or.inr (Or.inr ⟨event, rest, due, rfl⟩)))
  | issue code issuedAt expiresAt => exact Or.inl ⟨rfl, rfl, rfl, rfl⟩
  | cancelAll => exact Or.inl ⟨rfl, rfl, rfl, rfl⟩
  | matchInvitation now session request handled =>
      apply Or.inl
      unfold matchInvitation
      split
      · exact ⟨rfl, rfl, rfl, rfl⟩
      · split
        · exact ⟨rfl, rfl, rfl, rfl⟩
        · exact ⟨rfl, rfl, rfl, rfl⟩
        · exact ⟨rfl, rfl, rfl, rfl⟩
  | admitMember now failure session facts handled =>
      apply Or.inl
      unfold admitMember
      split
      · exact ⟨rfl, rfl, rfl, rfl⟩
      · exact ⟨rfl, rfl, rfl, rfl⟩
      · exact ⟨rfl, rfl, rfl, rfl⟩
  | trustPeer failure session facts now handled =>
      apply Or.inl
      cases failure with
      | none => exact ⟨rfl, rfl, rfl, rfl⟩
      | some error => exact ⟨rfl, rfl, rfl, rfl⟩
  | _ => exact Or.inl (goes rfl).queue

theorem mem_filterMap_opening {events : List PairingSessionEvent}
    {session : PairingSessionId} :
    session ∈ events.filterMap opening ↔
      ∃ message, .incoming session message ∈ events := by
  rw [List.mem_filterMap]
  constructor
  · rintro ⟨event, member, opens⟩
    cases event with
    | incoming other message =>
        cases opens
        exact ⟨message, member⟩
    | _ => cases opens
  · rintro ⟨message, member⟩
    exact ⟨_, member, rfl⟩

theorem queued_boot {members : Members} {trustedPeers : TrustedPeers} :
    (boot members trustedPeers).Queued where
  first := by
    intro session message member
    cases member
  heard := by
    intro session message member
    cases member
  once := List.nodup_nil
  unknown := by
    intro session missing
    exact ⟨List.not_mem_nil, rfl⟩

theorem queued_accept {session : PairingSessionId} {remote : EndpointId}
    (queued : state.Queued) (isNew : state.accepted.find session = none) :
    (state.accept session remote message).Queued := by
  have nothing := queued.unknown session isNew
  have notQueued : session ∉ state.events.filterMap opening := by
    intro member
    obtain ⟨other, queuedToo⟩ := mem_filterMap_opening.mp member
    have received := (queued.first session other queuedToo).2
    rw [nothing.2] at received
    cases received
  have appended : ∀ other, messagesOf other
      (state.accept session remote message).received =
      messagesOf other state.received ++
        messagesOf other [(session, message)] :=
    fun other => messagesOf_append other _ _
  constructor
  · intro other opened member
    rw [appended]
    cases List.mem_append.mp member with
    | inl before =>
        have kept := queued.first other opened before
        refine ⟨kept.1, ?_⟩
        rw [List.head?_append, kept.2]
        rfl
    | inr isNewest =>
        cases List.mem_singleton.mp isNewest
        refine ⟨nothing.1, ?_⟩
        rw [nothing.2, messagesOf_self]
        rfl
  · intro other heard member
    rw [appended]
    cases List.mem_append.mp member with
    | inl before =>
        exact List.mem_append_left _ (queued.heard other heard before)
    | inr isNewest => cases List.mem_singleton.mp isNewest
  · have listed : (state.accept session remote message).events.filterMap
        opening = state.events.filterMap opening ++ [session] := by
      simp [accept, opening]
    rw [listed]
    exact List.Nodup.append queued.once (List.nodup_singleton session)
      (List.disjoint_singleton.mpr notQueued)
  · intro other missing
    have different : other ≠ session := by
      intro same
      subst same
      have present : (state.accept other remote message).accepted.find other =
          some remote := Table.find_put_self
      rw [present] at missing
      cases missing
    have before : state.accepted.find other = none := by
      rw [← missing]
      exact (Table.find_put_of_ne different).symm
    have kept := queued.unknown other before
    refine ⟨kept.1, ?_⟩
    rw [appended, kept.2, messagesOf_other different]
    rfl

theorem queued_frame {session : PairingSessionId} (queued : state.Queued)
    (known : (state.accepted.find session).isSome = true) :
    (state.frame session message).Queued := by
  have appended : ∀ other, messagesOf other
      (state.frame session message).received =
      messagesOf other state.received ++
        messagesOf other [(session, message)] :=
    fun other => messagesOf_append other _ _
  constructor
  · intro other opened member
    rw [appended]
    cases List.mem_append.mp member with
    | inl before =>
        have kept := queued.first other opened before
        refine ⟨kept.1, ?_⟩
        rw [List.head?_append, kept.2]
        rfl
    | inr isNewest => cases List.mem_singleton.mp isNewest
  · intro other heard member
    rw [appended]
    cases List.mem_append.mp member with
    | inl before =>
        exact List.mem_append_left _ (queued.heard other heard before)
    | inr isNewest =>
        cases List.mem_singleton.mp isNewest
        rw [messagesOf_self]
        exact List.mem_append_right _ (List.mem_singleton.mpr rfl)
  · have listed : (state.frame session message).events.filterMap opening =
        state.events.filterMap opening := by
      simp [frame, opening]
    rw [listed]
    exact queued.once
  · intro other missing
    have before : state.accepted.find other = none := missing
    have different : other ≠ session := by
      intro same
      subst same
      rw [before] at known
      cases known
    have kept := queued.unknown other before
    refine ⟨kept.1, ?_⟩
    rw [appended, kept.2, messagesOf_other different]
    rfl

theorem queued_hangUp {session : PairingSessionId} (queued : state.Queued) :
    (state.hangUp session).Queued := by
  constructor
  · intro other opened member
    cases List.mem_append.mp member with
    | inl before => exact queued.first other opened before
    | inr isNewest => cases List.mem_singleton.mp isNewest
  · intro other heard member
    cases List.mem_append.mp member with
    | inl before => exact queued.heard other heard before
    | inr isNewest => cases List.mem_singleton.mp isNewest
  · have listed : (state.hangUp session).events.filterMap opening =
        state.events.filterMap opening := by
      simp [hangUp, opening]
    rw [listed]
    exact queued.once
  · exact queued.unknown

theorem queued_handle {event : PairingSessionEvent}
    {rest : List PairingSessionEvent} (queued : state.Queued)
    (due : state.events = event :: rest) :
    (state.handle event rest).Queued := by
  obtain ⟨events, received, accepted, begun⟩ :
      (state.handle event rest).events = rest ∧ _ :=
    handle_queue event rest
  have later : ∀ other, other ∈ rest → other ∈ state.events := by
    intro other member
    rw [due]
    exact List.mem_cons_of_mem event member
  have once := queued.once
  rw [due, List.filterMap_cons] at once
  constructor
  · intro session message member
    rw [events] at member
    have kept := queued.first session message (later _ member)
    rw [received, begun]
    refine ⟨?_, kept.2⟩
    intro inBegun
    cases List.mem_append.mp inBegun with
    | inl isOpened =>
        rw [Option.mem_toList] at isOpened
        rw [isOpened, List.nodup_cons] at once
        exact once.1 (mem_filterMap_opening.mpr ⟨message, member⟩)
    | inr before => exact kept.1 before
  · intro session message member
    rw [events] at member
    rw [received]
    exact queued.heard session message (later _ member)
  · rw [events]
    cases opens : opening event with
    | none =>
        rw [opens] at once
        exact once
    | some session =>
        rw [opens, List.nodup_cons] at once
        exact once.2
  · intro session missing
    rw [accepted] at missing
    rw [received, begun]
    have kept := queued.unknown session missing
    refine ⟨?_, kept.2⟩
    intro inBegun
    cases List.mem_append.mp inBegun with
    | inl isOpened =>
        rw [Option.mem_toList] at isOpened
        cases event with
        | incoming other message =>
            cases isOpened
            have first := queued.first session message (by
              rw [due]
              exact List.mem_cons_self)
            rw [kept.2] at first
            exact absurd first.2 (by simp)
        | _ => cases isOpened
    | inr before => exact kept.1 before

theorem queued_step (queued : state.Queued)
    (ran : state.step env action = some next) : next.Queued := by
  rcases queue_of_stepped (stepped_of_step ran) with
    same | ⟨session, remote, message, _, isNew, isNext⟩ |
    ⟨session, message, known, isNext⟩ | ⟨session, isNext⟩ |
    ⟨event, rest, due, isNext⟩
  · obtain ⟨events, received, begun, accepted⟩ := same
    constructor
    · rw [events, received, begun]
      exact queued.first
    · rw [events, received]
      exact queued.heard
    · rw [events]
      exact queued.once
    · rw [received, begun, accepted]
      exact queued.unknown
  · subst isNext
    exact queued_accept queued isNew
  · subst isNext
    exact queued_frame queued known
  · subst isNext
    exact queued_hangUp queued
  · subst isNext
    exact queued_handle queued due

end Queue

/-! ## Runs -/

section Runs

open Transition

variable {env : SponsorEnv} {guard : Sponsor → SponsorAction → Prop}
  {start state : Sponsor}

theorem view_run (punctual : Prop) (holds : SessionView → Prop)
    {session : PairingSessionId}
    (initially : start.Queued) (atStart : holds (start.view session))
    (kept : ∀ before action, guard before action → punctual →
      Punctual env before action)
    (stepwise : ∀ before after, holds before →
      SessionView.Step env punctual session before after → holds after)
    (run : Run (step env) guard start state) :
    holds (state.view session) := by
  have both : state.Queued ∧ holds (state.view session) := by
    apply run.preserves ⟨initially, atStart⟩
    intro before action after invariant admitted ran
    refine ⟨queued_step invariant.1 ran, ?_⟩
    have seen : Seen env punctual session before after :=
      seen_of_stepped invariant.1 (kept before action admitted)
        (stepped_of_step ran)
    rcases seen with same | step
    · rw [same]
      exact invariant.2
    · exact stepwise _ _ invariant.2 step
  exact both.2

end Runs

end Sponsor

end OpenClipboard.Pairing
