import OpenClipboard.ActiveState.Register
import OpenClipboard.Membership.Gates

/-!
# Inbound convergence on one device

`handleOne` filters one inbound observation and either schedules a detached
task or leaves the device alone.  A task writes the OS clipboard, then runs the
compare-and-set, and re-broadcasts only when that advanced the register.  The
two steps of a task are separate: any number of tasks can be between them.
-/

namespace OpenClipboard

/-- Reject activations stamped further ahead than this. -/
def futureTimestampToleranceMs : Int := 300000

/-- One observation as the receiver adapter reports it. -/
structure InboundActiveClipboardState where
  peerDeviceId : DeviceId
  snapshotHash : String
  senderEntryId : String
  activatedAtMs : Int
  activatedBy : DeviceId
  deriving DecidableEq, Repr

namespace InboundActiveClipboardState

/-- The observation as a register value; the sender's entry id is only a
placeholder. -/
def incoming (inbound : InboundActiveClipboardState) :
    ActiveClipboardState where
  snapshotHash := inbound.snapshotHash
  entryId := ⟨inbound.senderEntryId⟩
  activatedAtMs := inbound.activatedAtMs
  activatedBy := inbound.activatedBy

def activation (inbound : InboundActiveClipboardState) : Activation :=
  inbound.incoming.activation

end InboundActiveClipboardState

inductive ActiveClipboardPullClientError where
  | unreachable
  | notAvailable
  | io (reason : String)
  deriving DecidableEq, Repr

inductive InboundPulledContentStoreError where
  | decrypt (message : String)
  | store (message : String)
  deriving DecidableEq, Repr

/-- What the ports answer while one observation is handled. -/
structure InboundEnv where
  isUnlocked : Bool
  loadFailure : Option String
  nowMs : Int
  memberRepo : MemberRepository
  findEntryIdBySnapshotHash : String → Except String (Option EntryId)
  isEntryAvailable : Option (EntryId → Except String Bool)
  pullClient :
    Option (DeviceId → String →
      Except ActiveClipboardPullClientError (List UInt8))
  pulledContentStore :
    Option (DeviceId → String → List UInt8 →
      Except InboundPulledContentStoreError EntryId)
  reconstruct : EntryId → Except String SystemClipboardSnapshot
  isMobileConsumable : EntryId → Bool
  urlParse : UrlParse

/-- The captured variables of one detached write-then-converge task. -/
structure ConvergeTask where
  snapshot : SystemClipboardSnapshot
  state : ActiveClipboardState
  categories : ClipboardContentCategorySet
  mobileConsumable : Bool
  deriving DecidableEq, Repr

inductive InboundDrop where
  | locked
  | registerLoadFailed
  | futureTimestamp
  | receiveDisabled
  | entryLookupFailed
  | contentNotPulled
  | reconstructFailed
  | contentTypeDenied
  deriving DecidableEq, Repr

inductive InboundIgnore where
  | sameActivation
  | stale
  deriving DecidableEq, Repr

inductive InboundOutcome where
  | dropped (reason : InboundDrop)
  | ignored (reason : InboundIgnore)
  | scheduled (task : ConvergeTask)
  deriving DecidableEq, Repr

/-- An unwired query counts as available, a failed one as unavailable. -/
def entryAvailable (env : InboundEnv) (entryId : EntryId) : Bool :=
  match env.isEntryAvailable with
  | none => true
  | some availability =>
      match availability entryId with
      | .ok isAvailable => isAvailable
      | .error _ => false

def pullAndStore (env : InboundEnv) (peer : DeviceId) (snapshotHash : String) :
    Option EntryId :=
  match env.pullClient, env.pulledContentStore with
  | some pull, some store =>
      match pull peer snapshotHash with
      | .error _ => none
      | .ok envelope =>
          match store peer snapshotHash envelope with
          | .error _ => none
          | .ok entryId => some entryId
  | _, _ => none

/-- Reconstruct, gate on the content type and schedule the detached write. -/
def convergeWithEntry (env : InboundEnv) (peer : DeviceId)
    (incoming : ActiveClipboardState) (localEntryId : EntryId) :
    InboundOutcome :=
  match env.reconstruct localEntryId with
  | .error _ => .dropped .reconstructFailed
  | .ok snapshot =>
      let categories :=
        ClipboardContentCategorySet.fromSnapshot env.urlParse snapshot
      if !MemberReceiveGate.isReceiveCategoryAllowed env.memberRepo peer
          categories then
        .dropped .contentTypeDenied
      else
        .scheduled {
          snapshot := snapshot
          state := { incoming with entryId := localEntryId }
          categories := categories
          mobileConsumable := env.isMobileConsumable localEntryId }

/-- The steps after the register comparison: the clock guard, the receive
gate and the lookup of the content. -/
def resolveContent (env : InboundEnv) (peer : DeviceId)
    (incoming : ActiveClipboardState) : InboundOutcome :=
  if incoming.activatedAtMs > env.nowMs + futureTimestampToleranceMs then
    .dropped .futureTimestamp
  else if !MemberReceiveGate.isReceiveAllowed env.memberRepo peer then
    .dropped .receiveDisabled
  else
    match env.findEntryIdBySnapshotHash incoming.snapshotHash with
    | .error _ => .dropped .entryLookupFailed
    | .ok found =>
        let held := found.filter (entryAvailable env)
        match held with
        | some entryId => convergeWithEntry env peer incoming entryId
        | none =>
            match pullAndStore env peer incoming.snapshotHash with
            | some entryId => convergeWithEntry env peer incoming entryId
            | none => .dropped .contentNotPulled

/-- Handle one inbound observation against the stored register. -/
def handleOne (env : InboundEnv) (register : Option RegisterRow)
    (inbound : InboundActiveClipboardState) : InboundOutcome :=
  let incoming := inbound.incoming
  if !env.isUnlocked then
    .dropped .locked
  else
    match env.loadFailure with
    | some _ => .dropped .registerLoadFailed
    | none =>
        match register.map RegisterRow.load with
        | none => resolveContent env inbound.peerDeviceId incoming
        | some current =>
            if incoming.isSameActivation current then
              .ignored .sameActivation
            else if !incoming.supersedes current then
              .ignored .stale
            else
              resolveContent env inbound.peerDeviceId incoming

/-! ## What `handleOne` can do -/

variable {env : InboundEnv} {peer : DeviceId} {task : ConvergeTask}
  {reason : InboundIgnore} {inbound : InboundActiveClipboardState}
  {register : Option RegisterRow}

private theorem convergeWithEntry_scheduled {incoming : ActiveClipboardState}
    {entryId : EntryId}
    (scheduled : convergeWithEntry env peer incoming entryId =
      .scheduled task) :
    task.state.activation = incoming.activation := by
  unfold convergeWithEntry at scheduled
  split at scheduled
  · cases scheduled
  · simp only at scheduled
    split at scheduled
    · cases scheduled
    · cases scheduled
      rfl

private theorem convergeWithEntry_not_ignored {incoming : ActiveClipboardState}
    {entryId : EntryId} :
    convergeWithEntry env peer incoming entryId ≠ .ignored reason := by
  intro ignored
  unfold convergeWithEntry at ignored
  split at ignored
  · cases ignored
  · simp only at ignored
    split at ignored <;> cases ignored

private theorem resolveContent_cases
    (env : InboundEnv) (peer : DeviceId) (incoming : ActiveClipboardState) :
    (∃ reason, resolveContent env peer incoming = .dropped reason) ∨
      ∃ entryId, resolveContent env peer incoming =
        convergeWithEntry env peer incoming entryId := by
  unfold resolveContent
  split
  · exact Or.inl ⟨_, rfl⟩
  · split
    · exact Or.inl ⟨_, rfl⟩
    · split
      · exact Or.inl ⟨_, rfl⟩
      · simp only
        split
        · exact Or.inr ⟨_, rfl⟩
        · split
          · exact Or.inr ⟨_, rfl⟩
          · exact Or.inl ⟨_, rfl⟩

private theorem resolveContent_scheduled {incoming : ActiveClipboardState}
    (scheduled : resolveContent env peer incoming = .scheduled task) :
    task.state.activation = incoming.activation := by
  rcases resolveContent_cases env peer incoming with
    ⟨reason, dropped⟩ | ⟨entryId, converges⟩
  · rw [dropped] at scheduled
    cases scheduled
  · exact convergeWithEntry_scheduled (converges ▸ scheduled)

private theorem resolveContent_not_ignored {incoming : ActiveClipboardState} :
    resolveContent env peer incoming ≠ .ignored reason := by
  intro ignored
  rcases resolveContent_cases env peer incoming with
    ⟨_, dropped⟩ | ⟨entryId, converges⟩
  · rw [dropped] at ignored
    cases ignored
  · exact convergeWithEntry_not_ignored (converges ▸ ignored)

theorem handleOne_scheduled
    (scheduled : handleOne env register inbound = .scheduled task) :
    task.state.activation = inbound.activation ∧
      registerRank register < (inbound.activation.key : WithBot _) := by
  unfold handleOne at scheduled
  simp only at scheduled
  split at scheduled
  · cases scheduled
  · split at scheduled
    · cases scheduled
    · split at scheduled
      · rename_i empty
        rw [Option.map_eq_none_iff] at empty
        subst empty
        exact ⟨resolveContent_scheduled scheduled, WithBot.bot_lt_coe _⟩
      · rename_i current loaded
        split at scheduled
        · cases scheduled
        · split at scheduled
          · cases scheduled
          · rename_i newer
            obtain ⟨row, rfl, rfl⟩ := Option.map_eq_some_iff.mp loaded
            refine ⟨resolveContent_scheduled scheduled, ?_⟩
            have wins := (ActiveClipboardState.supersedes_iff _ _).mp
              (by simpa using newer)
            exact WithBot.coe_lt_coe.mpr wins

theorem handleOne_inTime
    (scheduled : handleOne env register inbound = .scheduled task) :
    task.state.activatedAtMs ≤ env.nowMs + futureTimestampToleranceMs := by
  have resolved : resolveContent env inbound.peerDeviceId inbound.incoming =
      .scheduled task := by
    unfold handleOne at scheduled
    simp only at scheduled
    split at scheduled
    · cases scheduled
    · split at scheduled
      · cases scheduled
      · split at scheduled
        · exact scheduled
        · split at scheduled
          · cases scheduled
          · split at scheduled
            · cases scheduled
            · exact scheduled
  have sameInstant := congrArg Activation.activatedAtMs
    (resolveContent_scheduled resolved)
  have inTime : inbound.incoming.activatedAtMs ≤
      env.nowMs + futureTimestampToleranceMs := by
    by_contra late
    have dropped : resolveContent env inbound.peerDeviceId inbound.incoming =
        .dropped .futureTimestamp := if_pos (not_le.mp late)
    rw [dropped] at resolved
    cases resolved
  exact le_trans (le_of_eq sameInstant) inTime

theorem handleOne_ignored
    (ignored : handleOne env register inbound = .ignored reason) :
    (inbound.activation.key : WithBot _) ≤ registerRank register := by
  unfold handleOne at ignored
  simp only at ignored
  split at ignored
  · cases ignored
  · split at ignored
    · cases ignored
    · split at ignored
      · exact absurd ignored resolveContent_not_ignored
      · rename_i current loaded
        obtain ⟨row, rfl, rfl⟩ := Option.map_eq_some_iff.mp loaded
        have known : ¬ row.load.key < inbound.incoming.key →
            (inbound.activation.key : WithBot _) ≤
              registerRank (some row) := fun notNewer =>
          WithBot.coe_le_coe.mpr (not_lt.mp notNewer)
        split at ignored
        · rename_i same
          refine known ?_
          rw [ActiveClipboardState.isSameActivation_iff] at same
          rw [ActiveClipboardState.key, ActiveClipboardState.key, same]
          exact lt_irrefl _
        · split at ignored
          · rename_i stale
            refine known ?_
            rw [← ActiveClipboardState.supersedes_iff]
            simpa using stale
          · exact absurd ignored resolveContent_not_ignored

/-! ## Fan-out -/

inductive ReachabilityState where
  | online
  | offline
  | unknown
  deriving DecidableEq, Repr

/-- What the ports answer while one state is fanned out. -/
structure FanOutEnv where
  /-- `peer_addr_repo.list()`. -/
  peerAddresses : Except String (List DeviceId)
  presence : DeviceId → ReachabilityState
  memberRepo : MemberRepository
  /-- Whether the dispatch to a peer succeeds. -/
  dispatches : DeviceId → Bool

/-- The peers a state is sent to: never the activating device, never one known
offline, only those the send gate allows, less the failed dispatches. -/
def fanOutActiveState (env : FanOutEnv) (state : ActiveClipboardState)
    (categories : ClipboardContentCategorySet) : List DeviceId :=
  match env.peerAddresses with
  | .error _ => []
  | .ok records =>
      records.filter fun target =>
        target != state.activatedBy &&
          env.presence target != .offline &&
          MemberSendGate.isSendAllowed env.memberRepo target categories &&
          env.dispatches target

/-! ## Local activation -/

/-- `advance_local`: stamp `(now, this device)`, offer the state to the
register and hand it on whatever the register answered. -/
def advanceLocal (env : AdvanceEnv) (mobileConsumable : Bool) (nowMs : Int)
    (currentDeviceId : DeviceId) (register : Option RegisterRow)
    (snapshotHash : String) (entryId : EntryId) :
    ActiveClipboardState × Option RegisterRow :=
  let state : ActiveClipboardState := {
    snapshotHash := snapshotHash
    entryId := entryId
    activatedAtMs := nowMs
    activatedBy := currentDeviceId }
  (state, (advance env register state mobileConsumable).2)

end OpenClipboard
