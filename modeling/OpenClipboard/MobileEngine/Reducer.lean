import Mathlib.Data.List.Sort
import OpenClipboard.MobileEngine.Clipboard

/-!
# The decision core of the mobile sync engine

The runtime state of one server, the plans drawn from it and the commits that
fold an outcome back into it.  Clocks are whole milliseconds.  The jittered
backoff is a floating-point product; here each failure brings its own function
from the number of failures to milliseconds.
-/

namespace OpenClipboard.MobileEngine

open Text

/-- `char::to_uppercase`: on ASCII it is the ASCII uppercase, and it never
drops a character. -/
structure Uppercase where
  map : Char → List Char
  ascii : ∀ c : Char, c.toNat < 128 → map c = [c.toUpper]
  nonempty : ∀ c : Char, map c ≠ []

def Uppercase.toUppercase (casing : Uppercase) (text : String) : String :=
  String.ofList (text.toList.flatMap casing.map)

/-! ## The loop guard -/

inductive LoopDirection
  | pulled
  | pushed
  deriving DecidableEq, Repr

structure LoopGuardEvent where
  hash : String
  direction : LoopDirection
  atMillis : Int
  deriving DecidableEq

/-- `loop_guard::record`; a blank hash neither adds nor evicts an event. -/
def record (casing : Uppercase) (events : List LoopGuardEvent)
    (direction : LoopDirection) (hash : Option String)
    (atMillis windowMs : Int) : List LoopGuardEvent :=
  match hash with
  | none => events
  | some hash =>
      if hash = "" then
        events
      else
        events.filter (fun event => atMillis - windowMs ≤ event.atMillis) ++
          [{ hash := casing.toUppercase hash
             direction := direction
             atMillis := atMillis }]

/-- The number of direction changes along a list of events. -/
def flips : List LoopGuardEvent → Int
  | first :: second :: rest =>
      (if first.direction = second.direction then 0 else 1) +
        flips (second :: rest)
  | _ => 0

def tripped (events : List LoopGuardEvent) (flipThreshold : Int) : Bool :=
  events.any fun event =>
    let group := events.filter fun other => other.hash = event.hash
    flipThreshold ≤
      flips (group.insertionSort fun left right =>
        left.atMillis ≤ right.atMillis)

/-! ## The runtime state -/

inductive SyncState
  | idle
  | succeeded
  | hasNewUnwritten
  | offlineRetrying
  | authFailed
  | loopDetected
  deriving DecidableEq, Repr

/-- The tunables the decisions read. -/
structure SyncConfig where
  loopWindowMs : Int
  loopFlipThreshold : Int

/-- The runtime state, for either form of the documents: the boundary's record
has the same fields and holds a `ClipboardMeta`. -/
structure RuntimeState (Entry : Type) where
  state : SyncState
  lastSyncedHash : Option String
  lastSyncedContentId : Option String
  lastAppliedHash : Option String
  loopEvents : List LoopGuardEvent
  stagedServerHash : Option String
  stagedContentId : Option String
  stagedEntry : Option Entry
  consecutiveFailures : Int
  nextAttemptMs : Option Int
  lastHistorySyncMs : Option Int

abbrev SyncRuntimeState := RuntimeState Clipboard

def RuntimeState.default {Entry : Type} : RuntimeState Entry where
  state := .idle
  lastSyncedHash := none
  lastSyncedContentId := none
  lastAppliedHash := none
  loopEvents := []
  stagedServerHash := none
  stagedContentId := none
  stagedEntry := none
  consecutiveFailures := 0
  nextAttemptMs := none
  lastHistorySyncMs := none

/-! ## Helpers -/

def hashesEqual : Option String → Option String → Bool
  | none, none => true
  | some left, some right => eqIgnoreAsciiCase left right
  | _, _ => false

def nonemptyContentId (id : Option String) : Option String :=
  id.filter fun id => id ≠ ""

section Plans

/-! ## Before the server round trip -/

structure PreambleSnapshot where
  explicit : Bool
  autoPush : Bool
  hasActiveServer : Bool
  deviceHash : Option String
  historyHeadHash : Option String
  persistedSyncedHash : Option String
  persistedSyncedContentId : Option String
  nowMs : Int

inductive StopReason
  | noActiveServer
  | paused
  | backoffGate
  deriving DecidableEq, Repr

inductive PreambleProceed
  | stop (reason : StopReason)
  | toNetwork
  deriving DecidableEq, Repr

structure Preamble where
  recordLocal : Bool
  proceed : PreambleProceed
  deriving DecidableEq

variable (casing : Uppercase)

/-- Take over the persisted pair where either half differs from the memory.
Both the preamble and the engine do this. -/
def foldWatermark {Entry : Type} (st : RuntimeState Entry)
    (persistedHash persistedContentId : Option String) :
    RuntimeState Entry :=
  let hashDiffers := !hashesEqual persistedHash st.lastSyncedHash
  let contentIdDiffers :=
    nonemptyContentId persistedContentId !=
      nonemptyContentId st.lastSyncedContentId
  if hashDiffers || contentIdDiffers then
    { st with
      lastSyncedHash := persistedHash.map casing.toUppercase
      lastSyncedContentId := nonemptyContentId persistedContentId }
  else
    st

/-- Fresh local content that the engine did not write itself. -/
def recordsLocal {Entry : Type} (st : RuntimeState Entry)
    (snap : PreambleSnapshot) : Bool :=
  snap.autoPush &&
    snap.deviceHash.any fun hash =>
      hash != "" && !hashesEqual (some hash) st.lastAppliedHash &&
        !hashesEqual (some hash) snap.historyHeadHash

def planPreamble {Entry : Type} (st : RuntimeState Entry)
    (snap : PreambleSnapshot) : RuntimeState Entry × Preamble :=
  let recordLocal := recordsLocal st snap
  if !snap.hasActiveServer then
    ({ st with state := .idle }, ⟨recordLocal, .stop .noActiveServer⟩)
  else if st.state = .authFailed ∨ st.state = .loopDetected then
    (st, ⟨recordLocal, .stop .paused⟩)
  else if !snap.explicit && st.nextAttemptMs.any (snap.nowMs < ·) then
    (st, ⟨recordLocal, .stop .backoffGate⟩)
  else
    (foldWatermark casing st snap.persistedSyncedHash
      snap.persistedSyncedContentId, ⟨recordLocal, .toNetwork⟩)

/-! ## After the server round trip -/

/-- What the shell holds after the request, for either form of documents. -/
structure GetSnapshot (Entry : Type) where
  autoApply : Bool
  autoPush : Bool
  serverEntry : Option Entry
  devicePresent : Bool
  deviceHash : Option String

abbrev ServerGetSnapshot := GetSnapshot Clipboard

structure ServerNewPlan where
  alreadyStaged : Bool
  willApply : Bool
  deriving DecidableEq, Repr

inductive PushDecision
  | skipConsentMode
  | skipNoDevice
  | skipAlreadySynced
  | skipSelfWritten
  | doPush
  deriving DecidableEq, Repr

inductive ServerRoute
  | converged (serverHash : String)
  | serverNew (plan : ServerNewPlan)
  | push (decision : PushDecision)
  deriving DecidableEq, Repr

def nonemptyHash (hash : Option String) : Option String :=
  hash.filter fun hash => hash ≠ ""

def isAlreadySynced (entry : Clipboard) (st : SyncRuntimeState) : Bool :=
  match nonemptyContentId entry.contentId,
      nonemptyContentId st.lastSyncedContentId with
  | some a, some b => a == b
  | _, _ => hashesEqual entry.hash st.lastSyncedHash

def clipboardEqIgnoringContentId (a b : Clipboard) : Bool :=
  a.kind == b.kind && a.hash == b.hash && a.text == b.text &&
    a.hasData == b.hasData && a.dataName == b.dataName && a.size == b.size

/-- Whether the entry is the staged one: by identity, else by hash, else by
the documents themselves. -/
def isAlreadyStaged (st : SyncRuntimeState) (entry : Clipboard) : Bool :=
  match nonemptyContentId entry.contentId,
      nonemptyContentId st.stagedContentId with
  | some a, some b => a == b
  | _, _ =>
      if (nonemptyHash entry.hash).isSome then
        st.stagedServerHash.any fun staged =>
          hashesEqual (some staged) entry.hash
      else
        st.stagedEntry.any fun staged =>
          clipboardEqIgnoringContentId staged entry

def planServerNew (st : SyncRuntimeState) (autoApply : Bool)
    (entry : Clipboard) : ServerNewPlan where
  alreadyStaged := isAlreadyStaged st entry
  willApply := autoApply && (nonemptyHash entry.hash).isSome

def planPush (st : SyncRuntimeState) (snap : ServerGetSnapshot) :
    PushDecision :=
  if !snap.autoPush then .skipConsentMode
  else if !snap.devicePresent then .skipNoDevice
  else if hashesEqual snap.deviceHash st.lastSyncedHash then
    .skipAlreadySynced
  else if hashesEqual snap.deviceHash st.lastAppliedHash then
    .skipSelfWritten
  else .doPush

/-- The hash under which the server entry and the device hold one content. -/
def convergedHash (snap : ServerGetSnapshot) : Option String :=
  match snap.serverEntry.bind fun entry => nonemptyHash entry.hash,
      nonemptyHash snap.deviceHash with
  | some serverHash, some deviceHash =>
      if hashesEqual (some serverHash) (some deviceHash) then
        some serverHash
      else
        none
  | _, _ => none

def planAfterServerGet (st : SyncRuntimeState) (snap : ServerGetSnapshot) :
    ServerRoute :=
  match convergedHash snap with
  | some serverHash => .converged (casing.toUppercase serverHash)
  | none =>
      match snap.serverEntry with
      | none => .push (planPush st snap)
      | some entry =>
          if !isAlreadySynced entry st then
            .serverNew (planServerNew st snap.autoApply entry)
          else
            .push (planPush st snap)

end Plans

/-! ## Commits -/

section Commits

variable (casing : Uppercase) {Entry : Type}

/-- `advance_synced`: both halves of the watermark, or neither. -/
def advanceSynced (st : RuntimeState Entry) (hash contentId : Option String) :
    RuntimeState Entry :=
  match hash with
  | none => st
  | some hash =>
      if hash = "" then
        st
      else
        { st with
          lastSyncedHash := some (casing.toUppercase hash)
          lastSyncedContentId := nonemptyContentId contentId }

def upperNonempty (hash : Option String) : Option String :=
  (nonemptyHash hash).map casing.toUppercase

def clearStaged (st : RuntimeState Entry) : RuntimeState Entry :=
  { st with
    stagedServerHash := none
    stagedContentId := none
    stagedEntry := none }

def recordAndCheck (st : RuntimeState Entry) (direction : LoopDirection)
    (hash : Option String) (nowMs : Int) (cfg : SyncConfig) :
    RuntimeState Entry × Bool :=
  let events := record casing st.loopEvents direction hash nowMs
    cfg.loopWindowMs
  if tripped events cfg.loopFlipThreshold then
    ({ st with loopEvents := events, state := .loopDetected }, true)
  else
    ({ st with loopEvents := events }, false)

def commitConverged (st : RuntimeState Entry) (serverHash : String)
    (serverContentId : Option String) : RuntimeState Entry :=
  let st := advanceSynced casing st (some serverHash) serverContentId
  { clearStaged st with
    lastAppliedHash := upperNonempty casing (some serverHash)
    state := .succeeded }

def commitApply (st : RuntimeState Entry) (hash contentId : Option String)
    (nowMs : Int) (cfg : SyncConfig) : RuntimeState Entry × Bool :=
  let st := advanceSynced casing st hash contentId
  let st := { clearStaged st with
    lastAppliedHash := upperNonempty casing hash
    state := .succeeded }
  recordAndCheck casing st .pulled hash nowMs cfg

def commitPush (st : RuntimeState Entry)
    (pushedHash contentId : Option String) (nowMs : Int)
    (cfg : SyncConfig) : RuntimeState Entry × Bool :=
  match nonemptyHash pushedHash with
  | none => ({ st with state := .succeeded }, false)
  | some hash =>
      let st := advanceSynced casing st (some hash) contentId
      recordAndCheck casing { st with state := .succeeded } .pushed
        (some hash) nowMs cfg

def commitPushSkipped (st : RuntimeState Entry) : RuntimeState Entry :=
  { st with state := .succeeded }

def commitConsentPush (st : RuntimeState Entry) (pushedHash : Option String)
    (nowMs : Int) (cfg : SyncConfig) : RuntimeState Entry × Bool :=
  let st := advanceSynced casing st pushedHash none
  let st := { st with lastAppliedHash := upperNonempty casing pushedHash }
  let (st, tripped) := recordAndCheck casing st .pushed pushedHash nowMs cfg
  if tripped then
    (st, true)
  else
    ({ st with state := .succeeded, consecutiveFailures := 0 }, false)

def commitTickSuccess (st : RuntimeState Entry) : RuntimeState Entry :=
  { st with consecutiveFailures := 0, nextAttemptMs := none }

inductive TickErrorKind
  | authFailed
  | cancelled
  | networkUnreachable
  | connectTimeout
  | receiveTimeout
  | otherSyncError
  | unexpected
  deriving DecidableEq, Repr

structure TickFailureOutcome where
  kickProbe : Bool
  firstOffline : Bool
  deriving DecidableEq

def commitTickFailure (st : RuntimeState Entry) (kind : TickErrorKind)
    (backoffMs : Int → Int) (nowMs : Int) :
    RuntimeState Entry × TickFailureOutcome :=
  match kind with
  | .cancelled => (st, ⟨false, false⟩)
  | .authFailed => ({ st with state := .authFailed }, ⟨false, false⟩)
  | kind =>
      let failures := st.consecutiveFailures + 1
      ({ st with
          consecutiveFailures := failures
          nextAttemptMs := some (nowMs + backoffMs failures)
          state := .offlineRetrying },
        { kickProbe := kind = .networkUnreachable ∨ kind = .connectTimeout ∨
            kind = .receiveTimeout ∨ kind = .unexpected
          firstOffline := failures = 1 })

def commitHistorySyncDone (st : RuntimeState Entry) (nowMs : Int) :
    RuntimeState Entry :=
  { st with lastHistorySyncMs := some nowMs }

def markStagedApplied (st : RuntimeState Entry) : RuntimeState Entry × Bool :=
  match st.stagedServerHash with
  | none => (st, false)
  | some hash =>
      let advanced := advanceSynced casing st (some hash) st.stagedContentId
      ({ clearStaged advanced with
          lastAppliedHash := upperNonempty casing (some hash)
          state := .succeeded }, true)

end Commits

section Staging

def parkStaged (st : SyncRuntimeState) (entry : Clipboard) :
    SyncRuntimeState :=
  { st with
    stagedServerHash := entry.hash
    stagedContentId := nonemptyContentId entry.contentId
    stagedEntry := some entry }

def commitApplyFailed (st : SyncRuntimeState) (entry : Clipboard) :
    SyncRuntimeState :=
  parkStaged st entry

def commitStage (st : SyncRuntimeState) (entry : Clipboard) :
    SyncRuntimeState :=
  { parkStaged st entry with state := .hasNewUnwritten }

end Staging

/-! ## Transitions -/

section Transitions

variable {Entry : Type}

def acknowledgeLoopDetection (st : RuntimeState Entry) :
    RuntimeState Entry :=
  { st with loopEvents := [], state := .idle }

def resetRuntimeState (st : RuntimeState Entry) : RuntimeState Entry :=
  { clearStaged st with
    lastAppliedHash := none
    loopEvents := []
    state := .idle
    nextAttemptMs := none
    consecutiveFailures := 0
    lastHistorySyncMs := none }

def handleActiveServerChanged (st : RuntimeState Entry) :
    RuntimeState Entry :=
  { resetRuntimeState st with
    lastSyncedHash := none
    lastSyncedContentId := none }

def handleNetworkRouteChanged (st : RuntimeState Entry) :
    RuntimeState Entry :=
  { st with consecutiveFailures := 0, nextAttemptMs := none }

end Transitions

end OpenClipboard.MobileEngine
