import OpenClipboard.Library.Transition
import OpenClipboard.Search.Generation

/-!
# Rebuilding the index under live writes

A rebuild reads the entries, registers itself, stages what it has read in a
second generation of the tables and copies that generation over the active
one.  A live write changes the active tables first; it then repeats its
statements in the staging tables, if the rebuild was registered when the write
began.  The staging tables are written one statement at a time, by the rebuild
and by the live writes in any order.

Two logs are kept beside the state: the statements that the staging tables
have taken, and those of the entries read and of the live writes made, in the
order these came.
-/

namespace OpenClipboard.Search

open Transition

structure IndexedEntry where
  document : SearchDocument
  postings : List SearchPosting
  deriving DecidableEq, Repr

def IndexedEntry.statements (entry : IndexedEntry) : List Statement :=
  entryStatements entry.document entry.postings

inductive RebuildPhase where
  | idle
  | collecting (entries : List IndexedEntry)
  /-- Searches are blocked; the staging tables come next. -/
  | blocked (entries : List IndexedEntry)
  | created (entries : List IndexedEntry)
  /-- The statements left of one entry, and the entries after it. -/
  | staging (remaining : List Statement) (entries : List IndexedEntry)
  /-- Staging or the copy failed. -/
  | failing
  | finalized
  /-- The state is cleared and the staging tables still stand. -/
  | unregistered (succeeded : Bool)
  | finished
  deriving DecidableEq, Repr

def RebuildPhase.cutOver : RebuildPhase → Bool
  | finalized => true
  | unregistered succeeded => succeeded
  | finished => true
  | _ => false

/-- The staging tables have been created and are filled. -/
def RebuildPhase.filling : RebuildPhase → Bool
  | created _ => true
  | staging _ _ => true
  | _ => false

inductive LiveWrite where
  /-- It has looked for a rebuild. -/
  | checked (write : IndexWrite) (rebuildSeen : Bool)
  /-- The active tables have it; these statements are left to repeat. -/
  | mirroring (remaining : List Statement)
  deriving DecidableEq, Repr

def LiveWrite.statements : LiveWrite → List Statement
  | checked write _ => write.statements
  | mirroring remaining => remaining

structure IndexWorld where
  active : Generation
  staging : Option Generation
  indexMeta : SearchIndexMeta
  registered : Bool
  phase : RebuildPhase
  writes : List LiveWrite
  stagedLog : List Statement
  issuedLog : List Statement

/-- One step of the rebuild or of a live write. -/
inductive IndexAction where
  | call (write : IndexWrite)
  | activeWrite (index : Nat) (fails : Bool)
  | mirror (index : Nat) (fails : Bool)
  | begin
  | collect (entry : IndexedEntry)
  | block (nowMs : Int)
  | createTables (fails : Bool)
  | register
  | stage (fails : Bool)
  | finalize (completedAtMs : Int) (fails : Bool)
  | unregister
  | dropTables
  deriving DecidableEq, Repr

def IndexAction.ofRebuild : IndexAction → Bool
  | call _ => false
  | activeWrite _ _ => false
  | mirror _ _ => false
  | _ => true

variable {fails : Bool} {action : IndexAction}

namespace IndexWorld

def start (active : Generation) (staging : Option Generation)
    (indexMeta : SearchIndexMeta) : IndexWorld where
  active := active
  staging := staging
  indexMeta := indexMeta
  registered := false
  phase := .idle
  writes := []
  stagedLog := []
  issuedLog := []

/-- A live write with these statements left; without any it returns. -/
def continueWrite (index : Nat) (remaining : List Statement)
    (world : IndexWorld) : IndexWorld :=
  { world with
    writes := if remaining.isEmpty then world.writes.eraseIdx index
      else world.writes.set index (.mirroring remaining) }

/-- The transaction on the active tables.  Without a commit the write returns
an error and nothing is mirrored. -/
def activeWrite (index : Nat) (fails : Bool) (world : IndexWorld) :
    Option IndexWorld :=
  match world.writes[index]? with
  | some (.checked write rebuildSeen) =>
      match if fails then none else write.writeActive world.active with
      | none => some { world with writes := world.writes.eraseIdx index }
      | some written =>
          some (({ world with
            active := written
            issuedLog := world.issuedLog ++ write.statements }).continueWrite
              index (if rebuildSeen then write.statements else []))
  | _ => none

/-- A statement on the staging tables; `none` is an error, as when the tables
have been dropped. -/
def stageStatement (statement : Statement) (fails : Bool)
    (world : IndexWorld) : Option IndexWorld :=
  match world.staging with
  | none => none
  | some staging =>
      if fails || statement.violatesCheck then
        none
      else
        some { world with
          staging := some (statement.perform staging)
          stagedLog := world.stagedLog ++ [statement] }

/-- A statement that a live write repeats.  An error ends the repetition and
is only logged. -/
def mirror (index : Nat) (fails : Bool) (world : IndexWorld) :
    Option IndexWorld :=
  match world.writes[index]? with
  | some (.mirroring (statement :: remaining)) =>
      match world.stageStatement statement fails with
      | none => some { world with writes := world.writes.eraseIdx index }
      | some staged => some (staged.continueWrite index remaining)
  | _ => none

/-- The next statement of the rebuild, or the start of the next entry. -/
def stage (fails : Bool) (world : IndexWorld) : Option IndexWorld :=
  match world.phase with
  | .staging (statement :: remaining) entries =>
      match world.stageStatement statement fails with
      | none => some { world with phase := .failing }
      | some staged =>
          some { staged with phase := .staging remaining entries }
  | .staging [] (entry :: entries) =>
      some { world with phase := .staging entry.statements entries }
  | _ => none

/-- Replace the active rows by the staged ones, in one transaction. -/
def finalizeRebuild (targetVersion : String) (completedAtMs : Int)
    (staging : Generation) (world : IndexWorld) : IndexWorld :=
  { world with
    active := staging
    indexMeta := { world.indexMeta with
      indexVersion := targetVersion
      searchBlocked := false
      lastRebuildCompletedAtMs := some completedAtMs }
    phase := .finalized }

def step (targetVersion : String) (world : IndexWorld) :
    IndexAction → Option IndexWorld
  | .call write =>
      some { world with
        writes := world.writes ++ [.checked write world.registered] }
  | .activeWrite index fails => world.activeWrite index fails
  | .mirror index fails => world.mirror index fails
  | .begin =>
      match world.phase with
      | .idle | .finished =>
          some { world with phase := .collecting [], issuedLog := [] }
      | _ => none
  | .collect entry =>
      match world.phase with
      | .collecting entries =>
          some { world with
            phase := .collecting (entries ++ [entry])
            issuedLog := world.issuedLog ++ entry.statements }
      | _ => none
  | .block nowMs =>
      match world.phase with
      | .collecting entries =>
          some { world with
            phase := .blocked entries
            indexMeta := { world.indexMeta with
              searchBlocked := true
              lastRebuildStartedAtMs := some nowMs } }
      | _ => none
  | .createTables fails =>
      match world.phase with
      | .blocked entries =>
          if fails then
            some { world with staging := none, phase := .idle }
          else
            some { world with
              staging := some Generation.empty
              stagedLog := []
              phase := .created entries }
      | _ => none
  | .register =>
      match world.phase with
      | .created entries =>
          some { world with registered := true, phase := .staging [] entries }
      | _ => none
  | .stage fails => world.stage fails
  | .finalize completedAtMs fails =>
      match world.phase, world.staging with
      | .staging [] [], some staging =>
          if fails then
            some { world with phase := .failing }
          else
            some (world.finalizeRebuild targetVersion completedAtMs staging)
      | _, _ => none
  | .unregister =>
      match world.phase with
      | .failing =>
          some { world with registered := false, phase := .unregistered false }
      | .finalized =>
          some { world with registered := false, phase := .unregistered true }
      | _ => none
  | .dropTables =>
      match world.phase with
      | .unregistered succeeded =>
          some { world with
            staging := none
            phase := if succeeded then .finished else .idle }
      | _ => none

/-- After a copy the active tables are those that the entries read and the
live writes made give, applied in their order. -/
def KeepsMutations (world : IndexWorld) : Prop :=
  world.phase.cutOver = true →
    indexWrites.Alike world.active
      (indexWrites.replay world.issuedLog Generation.empty)

/-- What the last statement of a log about a cell leaves in it. -/
def lastRow (log : List Statement) (cell : Cell) : Option CellRow :=
  (indexWrites.lastWrite log cell).join

/-- At a copy, the last statement about each cell that has come to the staging
tables leaves what the last one issued leaves. -/
def copiesLastWrites (world : IndexWorld) : IndexAction → Prop
  | .finalize _ false =>
      world.phase = .staging [] [] → world.staging.isSome = true →
        ∀ cell, lastRow world.stagedLog cell = lastRow world.issuedLog cell
  | _ => True

/-- While a rebuild fills them, the staging tables hold what their log
gives. -/
def StagingLogged (world : IndexWorld) : Prop :=
  world.phase.filling = true → ∀ staging, world.staging = some staging →
    indexWrites.Alike staging
      (indexWrites.replay world.stagedLog Generation.empty)

/-! ## One step -/

section Step

variable {world next : IndexWorld}

theorem alike_replay_append {generation written : Generation}
    {log statements : List Statement}
    (alike : indexWrites.Alike generation
      (indexWrites.replay log Generation.empty))
    (performed : written = indexWrites.replay statements generation) :
    indexWrites.Alike written
      (indexWrites.replay (log ++ statements) Generation.empty) := by
  rw [performed, indexWrites.replay_append]
  exact alike.replay statements

theorem stageStatement_cases {statement : Statement}
    (staged : world.stageStatement statement fails = some next) :
    ∃ staging, world.staging = some staging ∧
      next = { world with
        staging := some (statement.perform staging)
        stagedLog := world.stagedLog ++ [statement] } := by
  unfold stageStatement at staged
  cases stands : world.staging with
  | none =>
      rw [stands] at staged
      cases staged
  | some staging =>
      rw [stands] at staged
      simp only [Option.ite_none_left_eq_some, Option.some.injEq] at staged
      exact ⟨staging, rfl, staged.2.symm⟩

theorem StagingLogged.stageStatement {statement : Statement}
    (logged : world.StagingLogged)
    (staged : world.stageStatement statement fails = some next) :
    next.StagingLogged := by
  obtain ⟨staging, stands, rfl⟩ := stageStatement_cases staged
  intro filling written isWritten
  cases isWritten
  exact alike_replay_append (logged filling staging stands) rfl

/-- The writes that go on have no statements but those of writes before. -/
def Inherits (before after : List LiveWrite) : Prop :=
  ∀ later ∈ after, ∃ earlier ∈ before,
    later.statements ⊆ earlier.statements

theorem Inherits.eraseIdx (writes : List LiveWrite) (index : Nat) :
    Inherits writes (writes.eraseIdx index) := by
  intro write member
  exact ⟨write, List.mem_of_mem_eraseIdx member, List.Subset.refl _⟩

theorem Inherits.continueWrite {index : Nat} {write : LiveWrite}
    {remaining : List Statement}
    (underWay : world.writes[index]? = some write)
    (fewer : remaining ⊆ write.statements) :
    Inherits world.writes (world.continueWrite index remaining).writes := by
  unfold IndexWorld.continueWrite
  split
  · exact Inherits.eraseIdx world.writes index
  · intro later member
    rcases List.mem_or_eq_of_mem_set member with wasThere | same
    · exact ⟨later, wasThere, List.Subset.refl _⟩
    · subst same
      exact ⟨write, List.mem_of_getElem? underWay, fewer⟩

theorem activeWrite_cases {index : Nat}
    (stepped : world.activeWrite index fails = some next) :
    next.phase = world.phase ∧ next.staging = world.staging ∧
      next.stagedLog = world.stagedLog ∧ Inherits world.writes next.writes ∧
      ∃ statements,
        next.active = indexWrites.replay statements world.active ∧
        next.issuedLog = world.issuedLog ++ statements ∧
        ∀ statement ∈ statements, ∃ write ∈ world.writes,
          statement ∈ write.statements := by
  unfold activeWrite at stepped
  split at stepped
  · rename_i write rebuildSeen underWay
    split at stepped
    · cases stepped
      exact ⟨rfl, rfl, rfl, Inherits.eraseIdx _ _, [], rfl,
        (List.append_nil _).symm, by simp⟩
    · rename_i written committed
      cases stepped
      refine ⟨rfl, rfl, rfl, ?_, write.statements, ?_, rfl, ?_⟩
      · apply Inherits.continueWrite underWay
        cases rebuildSeen with
        | false => exact List.nil_subset _
        | true => exact List.Subset.refl _
      · simp only [Option.ite_none_left_eq_some] at committed
        exact IndexWrite.writeActive_eq_replay committed.2
      · intro statement member
        exact ⟨_, List.mem_of_getElem? underWay, member⟩
  · cases stepped

/-- A repeated statement, and the end of the repetition, leave the active
tables and what was issued. -/
theorem mirror_cases {index : Nat}
    (stepped : world.mirror index fails = some next) :
    next.phase = world.phase ∧ next.active = world.active ∧
      next.issuedLog = world.issuedLog ∧ Inherits world.writes next.writes ∧
      (world.StagingLogged → next.StagingLogged) ∧
      (next.staging = world.staging ∨
        ∃ staging statement, world.staging = some staging ∧
          next.staging = some (statement.perform staging) ∧
          ∃ write ∈ world.writes, statement ∈ write.statements) := by
  unfold mirror at stepped
  split at stepped
  · rename_i statement remaining underWay
    split at stepped
    · cases stepped
      exact ⟨rfl, rfl, rfl, Inherits.eraseIdx _ _, id, .inl rfl⟩
    · rename_i staged isStaged
      cases stepped
      have logged : world.StagingLogged → staged.StagingLogged :=
        fun before => before.stageStatement isStaged
      obtain ⟨staging, stands, rfl⟩ := stageStatement_cases isStaged
      refine ⟨rfl, rfl, rfl, ?_, logged, .inr ⟨staging, statement, stands,
        rfl, _, List.mem_of_getElem? underWay, List.mem_cons_self⟩⟩
      exact Inherits.continueWrite underWay (List.subset_cons_self _ _)
  · cases stepped

theorem stage_cases (stepped : world.stage fails = some next) :
    next.phase.cutOver = false ∧
      (world.StagingLogged → next.StagingLogged) := by
  unfold stage at stepped
  split at stepped
  · rename_i statement remaining entries phase
    split at stepped
    · cases stepped
      exact ⟨rfl, fun _ filling => absurd filling Bool.false_ne_true⟩
    · rename_i staged isStaged
      cases stepped
      refine ⟨rfl, fun logged _ => ?_⟩
      have filling : staged.phase.filling = true := by
        obtain ⟨staging, stands, rfl⟩ := stageStatement_cases isStaged
        exact congrArg RebuildPhase.filling phase
      have before : staged.StagingLogged := logged.stageStatement isStaged
      exact before filling
  · rename_i entry entries phase
    cases stepped
    refine ⟨rfl, fun logged _ => logged ?_⟩
    rw [phase]
    rfl
  · cases stepped

theorem writes_of_rebuildStep {targetVersion : String}
    (ofRebuild : action.ofRebuild = true)
    (stepped : step targetVersion world action = some next) :
    next.writes = world.writes := by
  cases action with
  | call write => cases ofRebuild
  | activeWrite index fails => cases ofRebuild
  | mirror index fails => cases ofRebuild
  | stage fails =>
      simp only [step, stage] at stepped
      split at stepped
      · split at stepped
        · cases stepped
          rfl
        · rename_i staged isStaged
          cases stepped
          obtain ⟨staging, stands, rfl⟩ := stageStatement_cases isStaged
          rfl
      · cases stepped
        rfl
      · cases stepped
  | _ =>
      simp only [step] at stepped
      split at stepped
      all_goals try split at stepped
      all_goals cases stepped
      all_goals rfl

end Step

/-! ## Runs -/

theorem keepsMutations_of_not_cutOver {world : IndexWorld}
    (before : world.phase.cutOver = false) : world.KeepsMutations := by
  intro after
  rw [before] at after
  cases after

theorem stagingLogged_of_not_filling {world : IndexWorld}
    (idle : world.phase.filling = false) : world.StagingLogged := by
  intro filling
  rw [idle] at filling
  cases filling

section Finalize

variable {targetVersion : String} {world next : IndexWorld}

theorem keepsMutations_finalizeRebuild_iff (targetVersion : String)
    (completedAtMs : Int) {staging : Generation} (logged : world.StagingLogged)
    (filling : world.phase.filling = true)
    (stands : world.staging = some staging) :
    (world.finalizeRebuild targetVersion completedAtMs
        staging).KeepsMutations ↔
      ∀ cell, lastRow world.stagedLog cell =
        lastRow world.issuedLog cell := by
  have read : ∀ log cell,
      indexWrites.read (indexWrites.replay log Generation.empty) cell =
        lastRow log cell := by
    intro log cell
    rw [indexWrites.read_replay, lastRow]
    cases indexWrites.lastWrite log cell with
    | none => exact Generation.read_empty cell
    | some row => rfl
  have staged := logged filling staging stands
  constructor
  · intro keeps cell
    rw [← read, ← read, ← staged cell]
    exact keeps rfl cell
  · intro agree after cell
    have copied := staged cell
    rw [read, agree cell, ← read] at copied
    exact copied

theorem keepsMutations_finalize_iff {completedAtMs : Int}
    (logged : world.StagingLogged)
    (stepped : step targetVersion world (.finalize completedAtMs fails) =
      some next) :
    next.KeepsMutations ↔
      world.copiesLastWrites (.finalize completedAtMs fails) := by
  simp only [step] at stepped
  split at stepped
  · rename_i staging phase stands
    have filling : world.phase.filling = true := by
      rw [phase]
      rfl
    cases fails with
    | true =>
        cases stepped
        exact iff_of_true (keepsMutations_of_not_cutOver rfl) trivial
    | false =>
        cases stepped
        rw [keepsMutations_finalizeRebuild_iff targetVersion completedAtMs
          logged filling stands]
        constructor
        · intro agree _ _
          exact agree
        · intro copies
          apply copies phase
          rw [stands]
          rfl
  · cases stepped

end Finalize

theorem kept_of_step {targetVersion : String} {world next : IndexWorld}
    (stepped : step targetVersion world action = some next) :
    (world.StagingLogged → next.StagingLogged) ∧
      ((∀ completedAtMs fails, action ≠ .finalize completedAtMs fails) →
        world.KeepsMutations → next.KeepsMutations) := by
  have restarts : next.phase.filling = false → next.phase.cutOver = false →
      (world.StagingLogged → next.StagingLogged) ∧
        ((∀ completedAtMs fails, action ≠ .finalize completedAtMs fails) →
          world.KeepsMutations → next.KeepsMutations) := by
    intro idle before
    exact ⟨fun _ => stagingLogged_of_not_filling idle,
      fun _ _ => keepsMutations_of_not_cutOver before⟩
  cases action with
  | call write =>
      cases stepped
      exact ⟨id, fun _ => id⟩
  | activeWrite index fails =>
      obtain ⟨samePhase, sameStaging, sameLog, _, statements, written, issued,
        _⟩ := activeWrite_cases stepped
      constructor
      · unfold StagingLogged
        rw [samePhase, sameStaging, sameLog]
        exact id
      · intro _ keeps after
        rw [samePhase] at after
        rw [issued]
        exact alike_replay_append (keeps after) written
  | mirror index fails =>
      obtain ⟨samePhase, sameActive, sameIssued, _, staged, _⟩ :=
        mirror_cases stepped
      refine ⟨staged, fun _ => ?_⟩
      unfold KeepsMutations
      rw [samePhase, sameActive, sameIssued]
      exact id
  | stage fails =>
      obtain ⟨notCopied, staged⟩ := stage_cases stepped
      exact ⟨staged, fun _ _ => keepsMutations_of_not_cutOver notCopied⟩
  | finalize completedAtMs fails =>
      refine ⟨fun _ => ?_, fun noCopy => absurd rfl (noCopy _ _)⟩
      simp only [step] at stepped
      split at stepped
      · split at stepped
        all_goals cases stepped
        all_goals exact stagingLogged_of_not_filling rfl
      · cases stepped
  | createTables fails =>
      simp only [step] at stepped
      split at stepped
      · split at stepped
        · cases stepped
          exact restarts rfl rfl
        · cases stepped
          refine ⟨?_, fun _ _ => keepsMutations_of_not_cutOver rfl⟩
          intro _ _ staging isEmpty
          cases isEmpty
          exact BlindWrites.Alike.refl _
      · cases stepped
  | register =>
      simp only [step] at stepped
      split at stepped
      · rename_i entries phase
        cases stepped
        refine ⟨fun logged _ => logged ?_,
          fun _ _ => keepsMutations_of_not_cutOver rfl⟩
        rw [phase]
        rfl
      · cases stepped
  | unregister =>
      simp only [step] at stepped
      split at stepped
      · cases stepped
        exact restarts rfl rfl
      · rename_i phase
        cases stepped
        refine ⟨fun _ => stagingLogged_of_not_filling rfl,
          fun _ keeps _ => keeps ?_⟩
        rw [phase]
        rfl
      · cases stepped
  | dropTables =>
      simp only [step] at stepped
      split at stepped
      · rename_i succeeded phase
        cases stepped
        cases succeeded with
        | false => exact restarts rfl rfl
        | true =>
            refine ⟨fun _ => stagingLogged_of_not_filling rfl,
              fun _ keeps _ => keeps ?_⟩
            rw [phase]
            rfl
      · cases stepped
  | begin =>
      simp only [step] at stepped
      split at stepped
      all_goals cases stepped
      all_goals exact restarts rfl rfl
  | collect entry =>
      simp only [step] at stepped
      split at stepped
      all_goals cases stepped
      exact restarts rfl rfl
  | block nowMs =>
      simp only [step] at stepped
      split at stepped
      all_goals cases stepped
      exact restarts rfl rfl

theorem keepsMutations_step_iff {targetVersion : String}
    {world next : IndexWorld} (logged : world.StagingLogged)
    (keeps : world.KeepsMutations)
    (stepped : step targetVersion world action = some next) :
    next.KeepsMutations ↔ world.copiesLastWrites action := by
  have kept := (kept_of_step stepped).2
  cases action with
  | finalize completedAtMs fails =>
      exact keepsMutations_finalize_iff logged stepped
  | _ => exact iff_of_true (kept (by intro _ _; simp) keeps) trivial

theorem copiesLastWrites_of_disabled {targetVersion : String}
    {world : IndexWorld} (disabled : step targetVersion world action = none) :
    world.copiesLastWrites action := by
  cases action with
  | finalize completedAtMs fails =>
      cases fails with
      | true => trivial
      | false =>
          intro phase stands
          obtain ⟨staging, isStaging⟩ := Option.isSome_iff_exists.mp stands
          simp [step, phase, isStaging] at disabled
  | _ => trivial

end IndexWorld

namespace Sample

def note : SearchDocument where
  entryId := ⟨"e1"⟩
  eventId := "v1"
  activeTimeMs := 10
  capturedAtMs := 10
  contentType := .text
  tags := []
  fileExtensions := []
  mimeType := "text/plain"
  indexedAtMs := 11
  indexVersion := "1"
  textPreview := some "note"
  charCount := some 4
  fileNames := []
  filePaths := []
  linkUrls := []
  sourceDevice := none
  payloadState := none

def indexMeta : SearchIndexMeta := ⟨"1", false, none, none⟩

/-- The entry is removed after the rebuild has registered and before it comes
to stage what it has read of it. -/
def removedWhileStaging : List IndexAction :=
  [.begin, .collect ⟨note, []⟩, .block 20, .createTables false, .register,
    .call (.removeEntry note.entryId), .activeWrite 0 false,
    .mirror 0 false, .mirror 0 false, .mirror 0 false,
    .stage false, .stage false, .stage false, .stage false,
    .finalize 21 false]

/-- What a world says about the entry: whether a copy was made, whether the
active tables have it, and whether they should. -/
def noteReport (world : IndexWorld) : Bool × Bool × Bool :=
  (world.phase.cutOver,
    (world.active.read (.document note.entryId)).isSome,
    ((indexWrites.replay world.issuedLog Generation.empty).read
      (.document note.entryId)).isSome)

end Sample

end OpenClipboard.Search
