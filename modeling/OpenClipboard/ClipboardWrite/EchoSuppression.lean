import OpenClipboard.ClipboardWrite.SelfWriteLedger
import OpenClipboard.ClipboardWrite.Watcher
import OpenClipboard.Library.Table
import OpenClipboard.Library.Transition

/-!
# Echo suppression

The write coordinator, the watcher and the ledger together.  Programmatic
writes and user copies change the clipboard; the watcher observes every change
in order, and what it emits is attributed in order.  The steps of a write, the
observations and the attributions interleave freely.
-/

namespace OpenClipboard

open ContentHash Transition

def localEchoRttMax : Nat := 2000

def remoteEchoRttMax : Nat := 60000

def circuitFailureThreshold : Nat := 5

namespace ClipboardWriteIntent

def attribution : ClipboardWriteIntent → SelfWriteAttribution
  | .localRestore => .localWrite
  | .remotePush => .remoteWrite

def echoBudget : ClipboardWriteIntent → Nat
  | .localRestore => localEchoRttMax
  | .remotePush => remoteEchoRttMax

end ClipboardWriteIntent

/-- How far `write_inner` has come: the content record is armed, the OS write
has landed or failed, the call is over. -/
inductive WriteStage where
  | recorded
  | landed
  | failed
  | finished
  deriving DecidableEq, Repr

structure WriteTask where
  guardKey : String
  intent : ClipboardWriteIntent
  stage : WriteStage
  deriving DecidableEq, Repr

inductive ChangeAuthor where
  | user
  | write (id : Nat)
  deriving DecidableEq, Repr

structure ObservedChange where
  snapshot : SystemClipboardSnapshot
  author : ChangeAuthor
  deriving DecidableEq, Repr

/-- What the ledger made of an emitted change, and whether its content was just
written by a programmatic write. -/
structure AttributedChange where
  author : ChangeAuthor
  wasJustWritten : Bool
  origin : ClipboardChangeOrigin
  deriving DecidableEq, Repr

/-- The three components, the changes on their way between them, and what has
been attributed.  `written` recalls until when the content of each write counts
as just written. -/
structure EchoState where
  now : Nat
  watcher : ClipboardWatcher
  ledger : OriginStore
  consecutiveFailures : Nat
  circuitOpenUntil : Option Nat
  writes : Table Nat WriteTask
  changes : List ObservedChange
  events : List ObservedChange
  written : List (String × Nat)
  attributed : List AttributedChange

inductive EchoAction where
  | wait (duration : Nat)
  | beginWrite (id : Nat) (snapshot : SystemClipboardSnapshot)
      (intent : ClipboardWriteIntent)
  | landWrite (id : Nat) (echo : SystemClipboardSnapshot)
  | failWrite (id : Nat)
  | unwindWrite (id : Nat)
  | armFallback (id : Nat)
  | userCopy (snapshot : SystemClipboardSnapshot)
  | observe
  | attributeNext

/-- The libraries, the channel's capacity and the breaker's cooldown. -/
structure EchoEnv where
  blake3 : Blake3
  readFile : PathBuf → Option (List UInt8)
  loadFromMemory : List UInt8 → Option RgbaImage
  channelCapacity : Nat
  cooldown : Nat

namespace EchoState

def fresh : EchoState where
  now := 0
  watcher := ClipboardWatcher.new
  ledger := OriginStore.empty
  consecutiveFailures := 0
  circuitOpenUntil := none
  writes := ∅
  changes := []
  events := []
  written := []
  attributed := []

/-- A programmatic write of this content was begun within its budget. -/
def isJustWritten (state : EchoState) (key : String) : Bool :=
  state.written.any fun entry => decide (entry.1 = key ∧ state.now ≤ entry.2)

def setStage (state : EchoState) (id : Nat) (task : WriteTask)
    (stage : WriteStage) : EchoState :=
  { state with writes := state.writes.put id { task with stage := stage } }

/-- An open circuit refuses the write; one whose time is over closes. -/
def circuitRefuses (state : EchoState) : Bool :=
  state.circuitOpenUntil.any fun openUntil => decide (state.now < openUntil)

variable (env : EchoEnv)

def recorded (state : EchoState) (id : Nat) (guardKey : String)
    (intent : ClipboardWriteIntent) : EchoState :=
  { state with
    circuitOpenUntil := none
    ledger := state.ledger.recordSelfWrite state.now (.byContent guardKey)
      intent.attribution intent.echoBudget
    writes := state.writes.put id ⟨guardKey, intent, .recorded⟩
    written := (guardKey, state.now + intent.echoBudget) :: state.written }

/-- Up to the OS write: the breaker, and then the content record. -/
def beginWrite (state : EchoState) (id : Nat)
    (snapshot : SystemClipboardSnapshot) (intent : ClipboardWriteIntent) :
    Option EchoState :=
  match state.writes.find id, snapshot.originGuardKey env.blake3 env.readFile
  with
  | none, some guardKey =>
      if state.circuitRefuses then
        some state
      else
        some (state.recorded id guardKey intent)
  | _, _ => none

/-- Run a step of the write that is at the given stage. -/
def atStage (state : EchoState) (id : Nat) (stage : WriteStage)
    (after : WriteTask → EchoState) : Option EchoState :=
  match state.writes.find id with
  | some task => if task.stage = stage then some (after task) else none
  | none => none

/-- The clipboard changes; the platform may report other bytes than were
written. -/
def landWrite (state : EchoState) (id : Nat)
    (echo : SystemClipboardSnapshot) : Option EchoState :=
  state.atStage id .recorded fun task =>
    { state.setStage id task .landed with
      changes := state.changes ++ [⟨echo, .write id⟩] }

def failWrite (state : EchoState) (id : Nat) : Option EchoState :=
  state.atStage id .recorded fun task => state.setStage id task .failed

/-- Consume the record of the failed write and count the failure. -/
def unwindWrite (state : EchoState) (id : Nat) : Option EchoState :=
  let failures := state.consecutiveFailures + 1
  let trips := decide (circuitFailureThreshold ≤ failures)
  state.atStage id .failed fun task =>
    { state.setStage id task .finished with
      ledger :=
        (state.ledger.attributeObservedChange state.now task.guardKey).2
      consecutiveFailures := if trips then 0 else failures
      circuitOpenUntil :=
        if trips then some (state.now + env.cooldown)
        else state.circuitOpenUntil }

def armFallback (state : EchoState) (id : Nat) : Option EchoState :=
  state.atStage id .landed fun task =>
    { state.setStage id task .finished with
      ledger := state.ledger.recordSelfWrite state.now
        (.byNextChange task.guardKey) task.intent.attribution
          task.intent.echoBudget
      consecutiveFailures := 0
      circuitOpenUntil :=
        if 0 < state.consecutiveFailures then none
        else state.circuitOpenUntil }

/-- What the watcher makes of a change: whether it is emitted, and its guards
afterwards. -/
def watch (state : EchoState) (change : ObservedChange) :
    Option (Bool × ClipboardWatcher) :=
  state.watcher.emitWithDedupAt env.blake3 env.readFile env.loadFromMemory
    change.snapshot state.now
      (decide (state.events.length < env.channelCapacity))

def observe (state : EchoState) : Option EchoState :=
  match state.changes with
  | [] => none
  | change :: rest =>
      (state.watch env change).map fun (isEmitted, watcher) => { state with
        watcher := watcher
        changes := rest
        events := if isEmitted then state.events ++ [change] else state.events }

/-- The daemon takes the next emitted change; one without representations is
skipped. -/
def attributeNext (state : EchoState) : Option EchoState :=
  match state.events with
  | [] => none
  | event :: rest =>
      if event.snapshot.representations.isEmpty then
        some { state with events := rest }
      else
        (event.snapshot.originGuardKey env.blake3 env.readFile).map fun key =>
          let (origin, ledger) :=
            state.ledger.attributeObservedChange state.now key
          { state with
            events := rest
            ledger := ledger
            attributed := state.attributed ++
              [⟨event.author, state.isJustWritten key, origin⟩] }

def step (state : EchoState) : EchoAction → Option EchoState
  | .wait duration => some { state with now := state.now + duration }
  | .beginWrite id snapshot intent => state.beginWrite env id snapshot intent
  | .landWrite id echo => state.landWrite id echo
  | .failWrite id => state.failWrite id
  | .unwindWrite id => state.unwindWrite env id
  | .armFallback id => state.armFallback id
  | .userCopy snapshot =>
      some { state with changes := state.changes ++ [⟨snapshot, .user⟩] }
  | .observe => state.observe env
  | .attributeNext => state.attributeNext env

/-- Every attributed user copy whose content was not just written counts as a
local capture. -/
def AllLocal (state : EchoState) : Prop :=
  ∀ change ∈ state.attributed, change.author = .user →
    change.wasJustWritten = false → change.origin = .localCapture

/-- A user copy whose content was not just written finds no fallback that is
still pending. -/
def noPendingFallback (state : EchoState) : EchoAction → Prop
  | .attributeNext => ∀ event ∈ state.events.head?, event.author = .user →
      event.snapshot.representations ≠ [] →
      ∀ key ∈ event.snapshot.originGuardKey env.blake3 env.readFile,
        state.isJustWritten key = false →
          (state.ledger.pruneExpired state.now).nextChanges = []
  | _ => True

/-! ## What every run keeps -/

/-- Every content record is of a write, and expires no later than its content
stops being just written. -/
def Tracked (state : EchoState) : Prop :=
  ∀ record ∈ state.ledger.contentRecords, ∃ openUntil,
    (record.snapshotHash, openUntil) ∈ state.written ∧
      record.expiresAt ≤ openUntil

variable {env} {state next : EchoState} {action : EchoAction}

theorem Tracked.unrecorded (tracked : state.Tracked) {key : String}
    (notWritten : state.isJustWritten key = false) :
    ∀ record ∈ state.ledger.contentRecords, state.now ≤ record.expiresAt →
      record.snapshotHash ≠ key := by
  intro record member live same
  obtain ⟨openUntil, logged, isLater⟩ := tracked record member
  have isWritten : state.isJustWritten key = true := by
    unfold isJustWritten
    apply List.any_eq_true.mpr
    refine ⟨_, logged, decide_eq_true ⟨same, ?_⟩⟩
    exact le_trans live isLater
  rw [isWritten] at notWritten
  cases notWritten

theorem atStage_eq_some {id : Nat} {stage : WriteStage}
    {after : WriteTask → EchoState}
    (ran : state.atStage id stage after = some next) :
    ∃ task, state.writes.find id = some task ∧ task.stage = stage ∧
      next = after task := by
  unfold atStage at ran
  split at ran
  · rename_i task found
    split at ran
    · rename_i same
      exact ⟨task, found, same, (Option.some.inj ran).symm⟩
    · cases ran
  · cases ran

theorem beginWrite_eq_some {id : Nat} {snapshot : SystemClipboardSnapshot}
    {intent : ClipboardWriteIntent}
    (began : state.beginWrite env id snapshot intent = some next) :
    next = state ∨ ∃ guardKey, state.writes.find id = none ∧
      next = state.recorded id guardKey intent := by
  unfold beginWrite at began
  split at began
  · rename_i guardKey isNew keyed
    split at began
    · exact Or.inl (Option.some.inj began).symm
    · exact Or.inr ⟨guardKey, isNew, (Option.some.inj began).symm⟩
  · cases began

theorem observe_eq_some (observed : state.observe env = some next) :
    ∃ change rest isEmitted watcher, state.changes = change :: rest ∧
      state.watch env change = some (isEmitted, watcher) ∧
      next = { state with
        watcher := watcher
        changes := rest
        events :=
          if isEmitted then state.events ++ [change] else state.events } := by
  unfold observe at observed
  split at observed
  · cases observed
  · rename_i change rest pending
    obtain ⟨⟨isEmitted, watcher⟩, watched, same⟩ :=
      Option.map_eq_some_iff.mp observed
    exact ⟨change, rest, isEmitted, watcher, pending, watched, same.symm⟩

theorem attributeNext_eq_some (ran : state.attributeNext env = some next) :
    ∃ event rest, state.events = event :: rest ∧
      ((event.snapshot.representations = [] ∧
          next = { state with events := rest }) ∨
        event.snapshot.representations ≠ [] ∧ ∃ key,
          event.snapshot.originGuardKey env.blake3 env.readFile = some key ∧
          next = { state with
            events := rest
            ledger := (state.ledger.attributeObservedChange state.now key).2
            attributed := state.attributed ++
              [⟨event.author, state.isJustWritten key,
                (state.ledger.attributeObservedChange state.now
                  key).1⟩] }) := by
  unfold attributeNext at ran
  split at ran
  · cases ran
  · rename_i event rest pending
    split at ran
    · rename_i isEmpty
      exact ⟨event, rest, pending, Or.inl ⟨List.isEmpty_iff.mp isEmpty,
        (Option.some.inj ran).symm⟩⟩
    · rename_i nonempty
      obtain ⟨key, keyed, same⟩ := Option.map_eq_some_iff.mp ran
      exact ⟨event, rest, pending, Or.inr
        ⟨fun isEmpty => nonempty (List.isEmpty_iff.mpr isEmpty), key, keyed,
          same.symm⟩⟩

theorem Tracked.of_subset (tracked : state.Tracked)
    (sameWritten : next.written = state.written)
    (records : ∀ record ∈ next.ledger.contentRecords,
      record ∈ state.ledger.contentRecords) : next.Tracked := by
  intro record member
  rw [sameWritten]
  exact tracked record (records record member)

theorem Tracked.step (tracked : state.Tracked)
    (stepped : state.step env action = some next) : next.Tracked := by
  cases action with
  | wait duration =>
      cases stepped
      exact tracked
  | userCopy snapshot =>
      cases stepped
      exact tracked
  | beginWrite id snapshot intent =>
      rcases beginWrite_eq_some stepped with same | ⟨guardKey, _, same⟩
      · rw [same]
        exact tracked
      · rw [same]
        intro record member
        rcases OriginStore.mem_contentRecords_recordSelfWrite member with
          old | ⟨sameKey, sameTime⟩
        · obtain ⟨openUntil, logged, isLater⟩ := tracked record old
          exact ⟨openUntil, List.mem_cons_of_mem _ logged, isLater⟩
        · refine ⟨state.now + intent.echoBudget, ?_, sameTime.le⟩
          rw [sameKey]
          exact List.mem_cons_self
  | landWrite id echo =>
      obtain ⟨task, _, _, same⟩ := atStage_eq_some stepped
      rw [same]
      exact tracked
  | failWrite id =>
      obtain ⟨task, _, _, same⟩ := atStage_eq_some stepped
      rw [same]
      exact tracked
  | unwindWrite id =>
      obtain ⟨task, _, _, same⟩ := atStage_eq_some stepped
      apply tracked.of_subset
      · rw [same]
        rfl
      · intro record member
        rw [same] at member
        exact OriginStore.mem_contentRecords_attribute member
  | armFallback id =>
      obtain ⟨task, _, _, same⟩ := atStage_eq_some stepped
      apply tracked.of_subset
      · rw [same]
        rfl
      · intro record member
        rw [same] at member
        exact List.mem_of_mem_filter member
  | observe =>
      obtain ⟨change, rest, isEmitted, watcher, _, _, same⟩ :=
        observe_eq_some stepped
      rw [same]
      exact tracked
  | attributeNext =>
      obtain ⟨event, rest, _, empty | ⟨_, key, _, same⟩⟩ :=
        attributeNext_eq_some stepped
      · rw [empty.2]
        exact tracked
      · apply tracked.of_subset
        · rw [same]
        · intro record member
          rw [same] at member
          exact OriginStore.mem_contentRecords_attribute member

/-! ## Exactly when every user copy stays local -/

theorem attributed_of_step (stepped : state.step env action = some next)
    (notAttributing : action ≠ .attributeNext) :
    next.attributed = state.attributed := by
  cases action with
  | wait duration =>
      cases stepped
      rfl
  | userCopy snapshot =>
      cases stepped
      rfl
  | beginWrite id snapshot intent =>
      rcases beginWrite_eq_some stepped with same | ⟨guardKey, _, same⟩
      · rw [same]
      · rw [same]
        rfl
  | landWrite id echo =>
      obtain ⟨task, _, _, same⟩ := atStage_eq_some stepped
      rw [same]
      rfl
  | failWrite id =>
      obtain ⟨task, _, _, same⟩ := atStage_eq_some stepped
      rw [same]
      rfl
  | unwindWrite id =>
      obtain ⟨task, _, _, same⟩ := atStage_eq_some stepped
      rw [same]
      rfl
  | armFallback id =>
      obtain ⟨task, _, _, same⟩ := atStage_eq_some stepped
      rw [same]
      rfl
  | observe =>
      obtain ⟨change, rest, isEmitted, watcher, _, _, same⟩ :=
        observe_eq_some stepped
      rw [same]
  | attributeNext => exact (notAttributing rfl).elim

theorem noPendingFallback_of_disabled
    (disabled : state.step env action = none) :
    noPendingFallback env state action := by
  cases action with
  | attributeNext =>
      intro event isHead _ nonempty key keyed _
      cases pending : state.events with
      | nil =>
          rw [pending] at isHead
          cases isHead
      | cons first rest =>
          rw [pending] at isHead
          cases isHead
          have notEmpty : ¬ event.snapshot.representations.isEmpty = true := by
            intro isEmpty
            exact nonempty (List.isEmpty_iff.mp isEmpty)
          simp only [EchoState.step, attributeNext, pending] at disabled
          rw [if_neg notEmpty, Option.mem_def.mp keyed] at disabled
          cases disabled
  | _ => trivial

theorem allLocal_append {attributed : List AttributedChange}
    {change : AttributedChange} {state next : EchoState}
    (allLocal : state.AllLocal) (before : state.attributed = attributed)
    (after_ : next.attributed = attributed ++ [change]) :
    next.AllLocal ↔ (change.author = .user → change.wasJustWritten = false →
      change.origin = .localCapture) := by
  unfold AllLocal
  rw [after_]
  constructor
  · intro isLocal
    exact isLocal change (List.mem_append_right _ List.mem_cons_self)
  · intro isLocal other member
    cases List.mem_append.mp member with
    | inl old =>
        rw [← before] at old
        exact allLocal other old
    | inr isNew =>
        rw [List.mem_singleton.mp isNew]
        exact isLocal

theorem allLocal_step_iff (tracked : state.Tracked) (allLocal : state.AllLocal)
    (stepped : state.step env action = some next) :
    next.AllLocal ↔ noPendingFallback env state action := by
  by_cases isNext : action = .attributeNext
  · subst isNext
    obtain ⟨event, rest, pending, ⟨isEmpty, same⟩ |
      ⟨nonempty, key, keyed, same⟩⟩ := attributeNext_eq_some stepped
    · apply iff_of_true
      · rw [same]
        exact allLocal
      · intro head isHead _ notEmpty
        rw [pending] at isHead
        cases isHead
        exact absurd isEmpty notEmpty
    · have appended : next.attributed = state.attributed ++
          [⟨event.author, state.isJustWritten key,
            (state.ledger.attributeObservedChange state.now key).1⟩] := by
        rw [same]
      rw [allLocal_append allLocal rfl appended]
      have guards : noPendingFallback env state .attributeNext ↔
          (event.author = .user → state.isJustWritten key = false →
            (state.ledger.pruneExpired state.now).nextChanges = []) := by
        constructor
        · intro guard isUser notWritten
          apply guard event
          · rw [pending]
            rfl
          · exact isUser
          · exact nonempty
          · exact keyed
          · exact notWritten
        · intro guard head isHead isUser _ other otherKeyed notWritten
          rw [pending] at isHead
          cases isHead
          rw [Option.mem_def, keyed] at otherKeyed
          cases otherKeyed
          exact guard isUser notWritten
      rw [guards]
      apply imp_congr_right
      intro _
      apply imp_congr_right
      intro notWritten
      exact OriginStore.attribute_localCapture_iff (tracked.unrecorded notWritten)
  · apply iff_of_true
    · unfold AllLocal
      rw [attributed_of_step stepped isNext]
      exact allLocal
    · cases action with
      | attributeNext => exact (isNext rfl).elim
      | _ => trivial

theorem fresh_tracked : fresh.Tracked := by
  intro record member
  cases member

theorem fresh_allLocal : fresh.AllLocal := by
  intro change member
  cases member

theorem allLocal_iff_noPendingFallback (actions : List EchoAction) :
    (∀ done finish, done <+: actions →
      execute (step env) fresh done = some finish → finish.AllLocal) ↔
      Guarded (step env) (noPendingFallback env) fresh actions := by
  have always : ∀ done finish, execute (step env) fresh done = some finish →
      finish.Tracked := by
    intro done finish executed
    have run := Run.ofExecute (guarded_anyAction (step env) fresh done) executed
    apply run.preserves fresh_tracked
    intro before action after tracked _ stepped
    exact tracked.step stepped
  have history : (∀ done finish, done <+: actions →
      execute (step env) fresh done = some finish →
        finish.Tracked ∧ finish.AllLocal) ↔
      Guarded (step env) (noPendingFallback env) fresh actions := by
    apply @guarded_iff_history _ _ (step env) (noPendingFallback env)
      (fun _ state => state.Tracked ∧ state.AllLocal) [] actions fresh
    · intro state action _ disabled
      exact noPendingFallback_of_disabled disabled
    · intro _ state action _ next ⟨tracked, allLocal⟩ stepped
      rw [← allLocal_step_iff tracked allLocal stepped]
      exact and_iff_right (tracked.step stepped)
    · exact ⟨fresh_tracked, fresh_allLocal⟩
  rw [← history]
  constructor
  · intro allLocal done finish isPrefix executed
    exact ⟨always done finish executed, allLocal done finish isPrefix executed⟩
  · intro both done finish isPrefix executed
    exact (both done finish isPrefix executed).2

end EchoState

end OpenClipboard
