import Mathlib.Data.List.Induction
import Mathlib.Data.List.Pairwise
import OpenClipboard.Library.PartialMap

/-!
# The history of a file transfer

Each call on a transfer loads its events, rebuilds a timeline from them and
checks its own step against it; the step is an event that it then appends.
-/

namespace OpenClipboard.FileTransfer

inductive FileTransferDirection where
  | sending
  | receiving
  deriving DecidableEq, Repr

structure FileTransferProgress where
  direction : FileTransferDirection
  bytesTransferred : Nat
  totalBytes : Option Nat
  deriving DecidableEq, Repr

inductive FileTransferFailureReason where
  | networkUnavailable
  | timedOut
  | accessDenied
  | storageUnavailable
  | integrityCheckFailed
  | unknown
  deriving DecidableEq, Repr

inductive FileTransferCancellationReason where
  | localUser
  | remotePeer
  | replaced
  | timeout
  | unknown
  deriving DecidableEq, Repr

inductive FileTransferEvent where
  | started (transferId peerId filename : String) (fileSize : Option Nat)
  | progress (transferId peerId : String) (progress : FileTransferProgress)
  | completed (transferId peerId : String)
  | failed (transferId peerId : String) (reason : FileTransferFailureReason)
      (detail : Option String)
  | cancelled (transferId peerId : String)
      (reason : FileTransferCancellationReason)
  deriving DecidableEq, Repr

namespace FileTransferEvent

def transferId : FileTransferEvent → String
  | started transferId _ _ _ => transferId
  | progress transferId _ _ => transferId
  | completed transferId _ => transferId
  | failed transferId _ _ _ => transferId
  | cancelled transferId _ _ => transferId

def peerId : FileTransferEvent → String
  | started _ peerId _ _ => peerId
  | progress _ peerId _ => peerId
  | completed _ peerId => peerId
  | failed _ peerId _ _ => peerId
  | cancelled _ peerId _ => peerId

def isStarted : FileTransferEvent → Bool
  | started _ _ _ _ => true
  | _ => false

def isTerminal : FileTransferEvent → Bool
  | started _ _ _ _ => false
  | progress _ _ _ => false
  | _ => true

def progressBytes : FileTransferEvent → Option Nat
  | progress _ _ report => some report.bytesTransferred
  | _ => none

end FileTransferEvent

inductive FileTransferApplicationError where
  | store (message : String)
  | publish (message : String)
  | repository (message : String)
  | transferNotStarted (transferId : String)
  | transferAlreadyStarted (transferId : String)
  | transferAlreadyFinished (transferId : String)
  | peerMismatch (transferId expectedPeerId actualPeerId : String)
  | invalidHistory (transferId message : String)
  | progressWentBackwards (transferId : String) (previousBytes newBytes : Nat)
  deriving DecidableEq, Repr

/-! ## The timeline -/

inductive TerminalState where
  | completed
  | failed
  | cancelled
  deriving DecidableEq, Repr

structure TransferTimeline where
  started : Bool
  peerId : Option String
  terminalState : Option TerminalState
  lastProgressBytes : Option Nat
  deriving DecidableEq, Repr

namespace TransferTimeline

/-- `TransferTimeline::default`. -/
def initial : TransferTimeline := ⟨false, none, none, none⟩

def ensureActive (timeline : TransferTimeline) (transferId peerId : String) :
    Except FileTransferApplicationError Unit :=
  if timeline.started then
    if timeline.terminalState.isSome then
      .error (.transferAlreadyFinished transferId)
    else
      match timeline.peerId with
      | some expected =>
          if expected = peerId then .ok ()
          else .error (.peerMismatch transferId expected peerId)
      | none => .error (.invalidHistory transferId
          "started transfer is missing peer_id")
  else
    .error (.transferNotStarted transferId)

def ensureTransferIdMatches (expected actual : String) :
    Except FileTransferApplicationError Unit :=
  if expected = actual then .ok ()
  else .error (.invalidHistory expected
    ("history contains event for `" ++ actual ++ "`"))

/-- What an event of a running transfer does to the timeline. -/
def whileActive (timeline : TransferTimeline)
    (transferId eventTransferId peerId : String)
    (after : TransferTimeline) :
    Except FileTransferApplicationError TransferTimeline := do
  ensureTransferIdMatches transferId eventTransferId
  timeline.ensureActive transferId peerId
  return after

/-- One turn of the loop of `from_history`. -/
def record (transferId : String) (timeline : TransferTimeline) :
    FileTransferEvent → Except FileTransferApplicationError TransferTimeline
  | .started eventTransferId peerId _ _ => do
      ensureTransferIdMatches transferId eventTransferId
      if timeline.started then
        throw (.invalidHistory transferId "duplicate Started event")
      else if timeline.terminalState.isSome then
        throw (.invalidHistory transferId
          "Started event appears after terminal state")
      else
        return { timeline with started := true, peerId := some peerId }
  | .progress eventTransferId peerId progress =>
      timeline.whileActive transferId eventTransferId peerId
        { timeline with lastProgressBytes := some progress.bytesTransferred }
  | .completed eventTransferId peerId =>
      timeline.whileActive transferId eventTransferId peerId
        { timeline with terminalState := some .completed }
  | .failed eventTransferId peerId _ _ =>
      timeline.whileActive transferId eventTransferId peerId
        { timeline with terminalState := some .failed }
  | .cancelled eventTransferId peerId _ =>
      timeline.whileActive transferId eventTransferId peerId
        { timeline with terminalState := some .cancelled }

def fromHistory (transferId : String) (history : List FileTransferEvent) :
    Except FileTransferApplicationError TransferTimeline :=
  history.foldlM (record transferId) initial

end TransferTimeline

/-! ## The calls -/

/-- The inputs of the five use cases. -/
inductive Call where
  | start (transferId peerId filename : String) (fileSize : Option Nat)
  | reportProgress (transferId peerId : String)
      (progress : FileTransferProgress)
  | complete (transferId peerId : String)
  | fail (transferId peerId : String) (reason : FileTransferFailureReason)
      (detail : Option String)
  | cancel (transferId peerId : String)
      (reason : FileTransferCancellationReason)
  deriving DecidableEq, Repr

namespace Call

open TransferTimeline

def transferId : Call → String
  | start transferId _ _ _ => transferId
  | reportProgress transferId _ _ => transferId
  | complete transferId _ => transferId
  | fail transferId _ _ _ => transferId
  | cancel transferId _ _ => transferId

def event : Call → FileTransferEvent
  | start transferId peerId filename fileSize =>
      .started transferId peerId filename fileSize
  | reportProgress transferId peerId progress =>
      .progress transferId peerId progress
  | complete transferId peerId => .completed transferId peerId
  | fail transferId peerId reason detail =>
      .failed transferId peerId reason detail
  | cancel transferId peerId reason => .cancelled transferId peerId reason

/-- `StartTransferUseCase` on the timeline that it loaded. -/
def checkStart (transferId : String) (timeline : TransferTimeline) :
    Except FileTransferApplicationError Unit :=
  if timeline.started then .error (.transferAlreadyStarted transferId)
  else .ok ()

/-- `ReportTransferProgressUseCase` on the timeline that it loaded. -/
def checkProgress (transferId peerId : String)
    (progress : FileTransferProgress) (timeline : TransferTimeline) :
    Except FileTransferApplicationError Unit := do
  timeline.ensureActive transferId peerId
  match timeline.lastProgressBytes with
  | some previousBytes =>
      if progress.bytesTransferred < previousBytes then
        throw (.progressWentBackwards transferId previousBytes
          progress.bytesTransferred)
      else
        return ()
  | none => return ()

def check (timeline : TransferTimeline) :
    Call → Except FileTransferApplicationError Unit
  | start transferId _ _ _ => checkStart transferId timeline
  | reportProgress transferId peerId progress =>
      checkProgress transferId peerId progress timeline
  | complete transferId peerId => timeline.ensureActive transferId peerId
  | fail transferId peerId _ _ => timeline.ensureActive transferId peerId
  | cancel transferId peerId _ => timeline.ensureActive transferId peerId

/-- What a use case does up to the append: the event, or its error. -/
def execute (call : Call) (history : List FileTransferEvent) :
    Except FileTransferApplicationError FileTransferEvent := do
  let timeline ← fromHistory call.transferId history
  call.check timeline
  return call.event

end Call

/-! ## What a timeline accepts -/

namespace TransferTimeline

variable {transferId peerId : String} {timeline after : TransferTimeline}

theorem ensureActive_eq_ok_iff :
    timeline.ensureActive transferId peerId = .ok () ↔
      timeline.started = true ∧ timeline.terminalState = none ∧
        timeline.peerId = some peerId := by
  unfold ensureActive
  by_cases isStarted : timeline.started = true
  · rw [if_pos isStarted]
    cases isTerminal : timeline.terminalState with
    | some state => simp
    | none =>
        cases isPeer : timeline.peerId with
        | none => simp
        | some expected =>
            by_cases same : expected = peerId
            · simp [same, isStarted]
            · simp [same]
  · rw [if_neg isStarted]
    simp [isStarted]

theorem ensureTransferIdMatches_eq_ok_iff {actual : String} :
    ensureTransferIdMatches transferId actual = .ok () ↔
      transferId = actual := by
  unfold ensureTransferIdMatches
  by_cases same : transferId = actual
  · simp [same]
  · simp [same]

theorem whileActive_eq_ok_iff {eventTransferId : String}
    {next : TransferTimeline} :
    timeline.whileActive transferId eventTransferId peerId after = .ok next ↔
      transferId = eventTransferId ∧
        timeline.ensureActive transferId peerId = .ok () ∧ next = after := by
  constructor
  · intro recorded
    obtain ⟨_, isMatching, later⟩ := PartialMap.bind_eq_ok_iff.mp recorded
    obtain ⟨_, isActive, isNext⟩ := PartialMap.bind_eq_ok_iff.mp later
    exact ⟨ensureTransferIdMatches_eq_ok_iff.mp isMatching, isActive,
      (Except.ok.inj isNext).symm⟩
  · rintro ⟨same, isActive, isNext⟩
    refine PartialMap.bind_eq_ok_iff.mpr
      ⟨(), ensureTransferIdMatches_eq_ok_iff.mpr same, ?_⟩
    refine PartialMap.bind_eq_ok_iff.mpr ⟨(), isActive, ?_⟩
    rw [isNext]
    rfl

/-- The timeline once an event is recorded. -/
def extended (timeline : TransferTimeline) :
    FileTransferEvent → TransferTimeline
  | .started _ peerId _ _ =>
      { timeline with started := true, peerId := some peerId }
  | .progress _ _ report =>
      { timeline with lastProgressBytes := some report.bytesTransferred }
  | .completed _ _ => { timeline with terminalState := some .completed }
  | .failed _ _ _ _ => { timeline with terminalState := some .failed }
  | .cancelled _ _ _ => { timeline with terminalState := some .cancelled }

/-- The first event starts the transfer, and the others are of its peer and
come before its end. -/
def Accepts (timeline : TransferTimeline) (event : FileTransferEvent) : Prop :=
  if event.isStarted then
    timeline.started = false ∧ timeline.terminalState = none
  else
    timeline.started = true ∧ timeline.terminalState = none ∧
      timeline.peerId = some event.peerId

theorem record_eq_ok_iff {event : FileTransferEvent} :
    record transferId timeline event = .ok after ↔
      transferId = event.transferId ∧ timeline.Accepts event ∧
        after = timeline.extended event := by
  cases event with
  | started eventTransferId peerId filename fileSize =>
      have accepts : timeline.Accepts
          (.started eventTransferId peerId filename fileSize) ↔
            timeline.started = false ∧ timeline.terminalState = none :=
        Iff.rfl
      rw [accepts]
      constructor
      · intro recorded
        obtain ⟨_, isMatching, later⟩ := PartialMap.bind_eq_ok_iff.mp recorded
        refine ⟨ensureTransferIdMatches_eq_ok_iff.mp isMatching, ?_⟩
        split at later
        · cases later
        · rename_i notStarted
          split at later
          · cases later
          · rename_i notTerminal
            refine ⟨⟨?_, ?_⟩, (Except.ok.inj later).symm⟩
            · simpa using notStarted
            · simpa using notTerminal
      · rintro ⟨same, ⟨notStarted, notTerminal⟩, isAfter⟩
        refine PartialMap.bind_eq_ok_iff.mpr
          ⟨(), ensureTransferIdMatches_eq_ok_iff.mpr same, ?_⟩
        rw [isAfter]
        simp [notStarted, notTerminal, extended, pure, Except.pure]
  | progress eventTransferId peerId report =>
      exact whileActive_eq_ok_iff.trans
        (and_congr_right' (and_congr_left' ensureActive_eq_ok_iff))
  | completed eventTransferId peerId =>
      exact whileActive_eq_ok_iff.trans
        (and_congr_right' (and_congr_left' ensureActive_eq_ok_iff))
  | failed eventTransferId peerId reason detail =>
      exact whileActive_eq_ok_iff.trans
        (and_congr_right' (and_congr_left' ensureActive_eq_ok_iff))
  | cancelled eventTransferId peerId reason =>
      exact whileActive_eq_ok_iff.trans
        (and_congr_right' (and_congr_left' ensureActive_eq_ok_iff))

theorem fromHistory_append {history : List FileTransferEvent}
    {event : FileTransferEvent} :
    fromHistory transferId (history ++ [event]) = .ok after ↔
      ∃ timeline, fromHistory transferId history = .ok timeline ∧
        record transferId timeline event = .ok after := by
  unfold fromHistory
  rw [List.foldlM_append]
  constructor
  · intro folded
    obtain ⟨timeline, isTimeline, later⟩ :=
      PartialMap.bind_eq_ok_iff.mp folded
    obtain ⟨next, isNext, isAfter⟩ := PartialMap.bind_eq_ok_iff.mp later
    cases isAfter
    exact ⟨timeline, isTimeline, isNext⟩
  · rintro ⟨timeline, isTimeline, recorded⟩
    refine PartialMap.bind_eq_ok_iff.mpr ⟨timeline, isTimeline, ?_⟩
    exact PartialMap.bind_eq_ok_iff.mpr ⟨after, recorded, rfl⟩

/-- What a timeline says of the history it was rebuilt from: the transfer was
started if there is an event, by the first; it is over if the last event ends
it, and the last progress is the last one reported. -/
structure Summarises (timeline : TransferTimeline) (transferId : String)
    (history : List FileTransferEvent) : Prop where
  transfer : ∀ event ∈ history, event.transferId = transferId
  peer : ∀ event ∈ history, timeline.peerId = some event.peerId
  started : timeline.started = !history.isEmpty
  startsFirst : ∀ event ∈ history.head?, event.isStarted = true
  startsOnce : ∀ event ∈ history.tail, event.isStarted = false
  terminal : timeline.terminalState.isSome = true ↔
    ∃ event ∈ history.getLast?, event.isTerminal = true
  nothingAfter : ∀ event ∈ history.dropLast, event.isTerminal = false
  progress : timeline.lastProgressBytes =
    (history.filterMap FileTransferEvent.progressBytes).getLast?

theorem summarises_initial : initial.Summarises transferId [] := by
  constructor
  · intro event member
    cases member
  · intro event member
    cases member
  · rfl
  · intro event member
    cases member
  · intro event member
    cases member
  · constructor
    · intro isTerminal
      cases isTerminal
    · rintro ⟨event, member, _⟩
      cases member
  · intro event member
    cases member
  · rfl

theorem extended_peerId {event : FileTransferEvent}
    (accepts : timeline.Accepts event) :
    (timeline.extended event).peerId = some event.peerId := by
  unfold Accepts at accepts
  cases event with
  | started => rfl
  | progress => exact accepts.2.2
  | completed => exact accepts.2.2
  | failed => exact accepts.2.2
  | cancelled => exact accepts.2.2

theorem extended_started {event : FileTransferEvent}
    (accepts : timeline.Accepts event) :
    (timeline.extended event).started = true := by
  unfold Accepts at accepts
  cases event with
  | started => rfl
  | progress => exact accepts.1
  | completed => exact accepts.1
  | failed => exact accepts.1
  | cancelled => exact accepts.1

theorem notTerminal_of_accepts {event : FileTransferEvent}
    (accepts : timeline.Accepts event) : timeline.terminalState = none := by
  unfold Accepts at accepts
  split at accepts
  · exact accepts.2
  · exact accepts.2.1

theorem extended_terminalState {event : FileTransferEvent}
    (notTerminal : timeline.terminalState = none) :
    (timeline.extended event).terminalState.isSome = event.isTerminal := by
  cases event <;> simp [extended, FileTransferEvent.isTerminal, notTerminal]

theorem extended_lastProgressBytes {event : FileTransferEvent} :
    (timeline.extended event).lastProgressBytes =
      (event.progressBytes <|> timeline.lastProgressBytes) := by
  cases event <;> rfl

theorem Summarises.extended {history : List FileTransferEvent}
    {event : FileTransferEvent}
    (summarises : timeline.Summarises transferId history)
    (isTransfer : transferId = event.transferId)
    (accepts : timeline.Accepts event) :
    (timeline.extended event).Summarises transferId (history ++ [event]) := by
  have isPeer := extended_peerId accepts
  have notTerminal := notTerminal_of_accepts accepts
  have startedIff : event.isStarted = history.isEmpty := by
    have started := summarises.started
    unfold Accepts at accepts
    split at accepts
    · rename_i isStarted
      rw [accepts.1] at started
      rw [isStarted]
      simpa using started
    · rename_i notStarted
      rw [accepts.1] at started
      rw [Bool.not_eq_true] at notStarted
      rw [notStarted]
      simpa using started
  constructor
  · intro other member
    rcases List.mem_append.mp member with isOld | isNew
    · exact summarises.transfer other isOld
    · rw [List.mem_singleton.mp isNew, isTransfer]
  · intro other member
    rcases List.mem_append.mp member with isOld | isNew
    · have isOldPeer := summarises.peer other isOld
      have nonempty : history ≠ [] := List.ne_nil_of_mem isOld
      have notStart : event.isStarted = false := by
        rw [startedIff]
        simpa using nonempty
      unfold Accepts at accepts
      rw [notStart] at accepts
      rw [isPeer, ← accepts.2.2]
      exact isOldPeer
    · rw [List.mem_singleton.mp isNew]
      exact isPeer
  · rw [extended_started accepts]
    simp
  · intro other isHead
    cases history with
    | nil =>
        cases isHead
        rw [startedIff]
        rfl
    | cons first rest =>
        exact summarises.startsFirst other isHead
  · intro other member
    cases history with
    | nil => cases member
    | cons first rest =>
        rw [List.cons_append, List.tail_cons] at member
        rcases List.mem_append.mp member with isOld | isNew
        · exact summarises.startsOnce other isOld
        · rw [List.mem_singleton.mp isNew, startedIff]
          rfl
  · rw [extended_terminalState notTerminal, List.getLast?_append]
    simp
  · intro other member
    rw [List.dropLast_concat] at member
    by_cases isLast : history.getLast? = some other
    · rw [Bool.eq_false_iff]
      intro isTerminal
      have ended := summarises.terminal.mpr ⟨other, isLast, isTerminal⟩
      rw [notTerminal] at ended
      cases ended
    · apply summarises.nothingAfter
      have nonempty : history ≠ [] := List.ne_nil_of_mem member
      rw [List.getLast?_eq_getLast_of_ne_nil nonempty] at isLast
      rw [← List.dropLast_append_getLast nonempty] at member
      rcases List.mem_append.mp member with early | late
      · exact early
      · rw [List.mem_singleton] at late
        exact absurd (congrArg some late.symm) isLast
  · rw [extended_lastProgressBytes, summarises.progress, List.filterMap_append,
      List.getLast?_append]
    cases event <;> rfl

theorem summarises_of_fromHistory {history : List FileTransferEvent}
    (accepted : fromHistory transferId history = .ok timeline) :
    timeline.Summarises transferId history := by
  induction history using List.reverseRecOn generalizing timeline with
  | nil =>
      cases accepted
      exact summarises_initial
  | append_singleton early event inductionHypothesis =>
      obtain ⟨before, isBefore, recorded⟩ := fromHistory_append.mp accepted
      obtain ⟨isTransfer, accepts, isAfter⟩ := record_eq_ok_iff.mp recorded
      rw [isAfter]
      exact (inductionHypothesis isBefore).extended isTransfer accepts

end TransferTimeline

/-! ## Well-formed histories -/

open TransferTimeline in
/-- The history is accepted, and its progress never falls. -/
structure WellFormed (transferId : String)
    (history : List FileTransferEvent) : Prop where
  accepted : ∃ timeline, fromHistory transferId history = .ok timeline
  progress : (history.filterMap FileTransferEvent.progressBytes).Pairwise
    (· ≤ ·)

namespace Call

open TransferTimeline

variable {call : Call} {history : List FileTransferEvent}
  {timeline : TransferTimeline}

theorem event_transferId : call.event.transferId = call.transferId := by
  cases call <;> rfl

/-- No report falls behind the last one. -/
def KeepsUp (timeline : TransferTimeline) (call : Call) : Prop :=
  ∀ bytes ∈ call.event.progressBytes, ∀ last ∈ timeline.lastProgressBytes,
    last ≤ bytes

/-- A use case makes the check that the loop will make of its event. -/
theorem check_eq_ok_iff
    (overStarted : timeline.terminalState.isSome = true →
      timeline.started = true) :
    call.check timeline = .ok () ↔
      timeline.Accepts call.event ∧ KeepsUp timeline call := by
  have idle : call.event.progressBytes = none →
      KeepsUp timeline call := by
    intro noProgress bytes isBytes
    rw [noProgress] at isBytes
    cases isBytes
  cases call with
  | start transferId peerId filename fileSize =>
      have started : checkStart transferId timeline = .ok () ↔
          timeline.started = false := by
        unfold checkStart
        cases timeline.started <;> simp
      rw [and_iff_left (idle rfl)]
      refine started.trans ?_
      constructor
      · intro notStarted
        refine ⟨notStarted, ?_⟩
        rw [← Option.not_isSome_iff_eq_none]
        intro ended
        rw [overStarted ended] at notStarted
        cases notStarted
      · intro accepts
        exact accepts.1
  | reportProgress transferId peerId progress =>
      have keepsUp : KeepsUp timeline
          (.reportProgress transferId peerId progress) ↔
            ∀ last ∈ timeline.lastProgressBytes,
              last ≤ progress.bytesTransferred := by
        constructor
        · intro keeps last isLast
          exact keeps _ rfl last isLast
        · intro keeps bytes isBytes last isLast
          cases isBytes
          exact keeps last isLast
      rw [keepsUp]
      change checkProgress transferId peerId progress timeline = .ok () ↔ _
      constructor
      · intro checked
        obtain ⟨_, isActive, later⟩ := PartialMap.bind_eq_ok_iff.mp checked
        refine ⟨ensureActive_eq_ok_iff.mp isActive, ?_⟩
        intro last isLast
        rw [Option.mem_def] at isLast
        simp only [isLast] at later
        split at later
        · cases later
        · omega
      · rintro ⟨isActive, keeps⟩
        refine PartialMap.bind_eq_ok_iff.mpr
          ⟨(), ensureActive_eq_ok_iff.mpr isActive, ?_⟩
        cases isLast : timeline.lastProgressBytes with
        | none => rfl
        | some last =>
            have notBehind := keeps last isLast
            simp only
            rw [if_neg (by omega)]
            rfl
  | complete transferId peerId =>
      rw [and_iff_left (idle rfl)]
      exact ensureActive_eq_ok_iff
  | fail transferId peerId reason detail =>
      rw [and_iff_left (idle rfl)]
      exact ensureActive_eq_ok_iff
  | cancel transferId peerId reason =>
      rw [and_iff_left (idle rfl)]
      exact ensureActive_eq_ok_iff

theorem le_last_of_sorted {reports : List Nat} {old last : Nat}
    (sorted : reports.Pairwise (· ≤ ·)) (isOld : old ∈ reports)
    (isLast : reports.getLast? = some last) : old ≤ last := by
  rw [List.getLast?_eq_getLast_of_ne_nil (List.ne_nil_of_mem isOld),
    Option.some.injEq] at isLast
  rw [← isLast]
  exact sorted.rel_getLast isOld

theorem execute_eq_ok_iff {event : FileTransferEvent} :
    call.execute history = .ok event ↔
      ∃ timeline, fromHistory call.transferId history = .ok timeline ∧
        call.check timeline = .ok () ∧ event = call.event := by
  constructor
  · intro executed
    obtain ⟨timeline, loaded, later⟩ := PartialMap.bind_eq_ok_iff.mp executed
    obtain ⟨_, checked, isEvent⟩ := PartialMap.bind_eq_ok_iff.mp later
    exact ⟨timeline, loaded, checked, (Except.ok.inj isEvent).symm⟩
  · rintro ⟨timeline, loaded, checked, isEvent⟩
    refine PartialMap.bind_eq_ok_iff.mpr ⟨timeline, loaded, ?_⟩
    refine PartialMap.bind_eq_ok_iff.mpr ⟨(), checked, ?_⟩
    rw [isEvent]
    rfl

theorem wellFormed_append_iff (wellFormed : WellFormed call.transferId history) :
    WellFormed call.transferId (history ++ [call.event]) ↔
      call.execute history = .ok call.event := by
  obtain ⟨timeline, loaded⟩ := wellFormed.accepted
  have summarises := summarises_of_fromHistory loaded
  have overStarted : timeline.terminalState.isSome = true →
      timeline.started = true := by
    intro ended
    obtain ⟨event, isLast, _⟩ := summarises.terminal.mp ended
    rw [summarises.started]
    cases history with
    | nil => cases isLast
    | cons first rest => rfl
  have executes : call.execute history = .ok call.event ↔
      timeline.Accepts call.event ∧ KeepsUp timeline call := by
    rw [execute_eq_ok_iff, ← check_eq_ok_iff overStarted]
    constructor
    · rintro ⟨other, isOther, checked, _⟩
      rw [loaded] at isOther
      cases isOther
      exact checked
    · intro checked
      exact ⟨timeline, loaded, checked, rfl⟩
  have accepts : (∃ after, fromHistory call.transferId
      (history ++ [call.event]) = .ok after) ↔
        timeline.Accepts call.event := by
    constructor
    · rintro ⟨after, folded⟩
      obtain ⟨before, isBefore, recorded⟩ := fromHistory_append.mp folded
      rw [loaded] at isBefore
      cases isBefore
      exact (record_eq_ok_iff.mp recorded).2.1
    · intro accepts
      exact ⟨timeline.extended call.event, fromHistory_append.mpr
        ⟨timeline, loaded, record_eq_ok_iff.mpr
          ⟨event_transferId.symm, accepts, rfl⟩⟩⟩
  have keepsUp : ((history ++ [call.event]).filterMap
      FileTransferEvent.progressBytes).Pairwise (· ≤ ·) ↔
        KeepsUp timeline call := by
    unfold KeepsUp
    rw [summarises.progress, List.filterMap_append, List.pairwise_append,
      and_iff_right wellFormed.progress]
    cases isBytes : call.event.progressBytes with
    | none => simp [isBytes]
    | some bytes =>
        simp only [List.filterMap_cons, isBytes, List.filterMap_nil,
          List.pairwise_singleton, true_and, List.mem_singleton,
          forall_eq, Option.mem_def, Option.some.injEq, forall_eq']
        constructor
        · intro below last isLast
          exact below last (List.mem_of_getLast? isLast)
        · intro below old isOld
          obtain ⟨last, isLast⟩ : ∃ last, (history.filterMap
              FileTransferEvent.progressBytes).getLast? = some last :=
            ⟨_, List.getLast?_eq_getLast_of_ne_nil (List.ne_nil_of_mem isOld)⟩
          exact Nat.le_trans (le_last_of_sorted wellFormed.progress isOld isLast)
            (below last isLast)
  rw [executes, ← accepts, ← keepsUp]
  exact ⟨fun extended => ⟨extended.accepted, extended.progress⟩,
    fun both => ⟨both.1, both.2⟩⟩

end Call

end OpenClipboard.FileTransfer
