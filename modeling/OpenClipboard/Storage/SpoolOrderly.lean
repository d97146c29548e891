import OpenClipboard.Storage.SpoolRuns

/-!
# Orderly runs of the spool

The condition under which the ledger stays exact while operations interleave,
and what one step and a whole run keep under it.
-/

namespace OpenClipboard.Spool

/-! ## The condition -/

variable {index : Nat} {action : SpoolAction}

namespace SpoolManager

variable (spool : SpoolManager)

def busy : List String := busyIds spool.writes spool.deletes

def victimsOf (repId : String) (size : Nat) : List String :=
  (SpoolState.planEviction spool.maxBytes repId size spool.ledger).1

/-- Two operations keep to different files and writes under way fit together; a
file operation fails only where it leaves what was there, and a write that
fails has evicted nothing; the janitor finds nothing to remove. -/
def Orderly : SpoolAction → Prop
  | .beginWrite repId bytes => bytes.length ≤ spool.maxBytes →
      repId ∉ spool.busy ∧
        (∀ victim ∈ spool.victimsOf repId bytes.length,
          victim ∉ spool.busy) ∧
        (spool.writes = [] ∨
          (spool.beginWrite repId bytes).ledger.totalBytes +
            growths (spool.beginWrite repId bytes).ledger
              (spool.beginWrite repId bytes).writes ≤ spool.maxBytes)
  | .evictNext index fails => fails = true →
      ∀ task others victim pending,
        spool.takeWrite index = some (task, others) →
        task.phase = .evicting (victim :: pending) →
          spool.files.find victim = none
  | .writeFile index _ failure => ∀ left task others, failure = some left →
      spool.takeWrite index = some (task, others) →
        left = spool.files.find task.repId ∧ task.victims = []
  | .setPermissions index fails => fails = true → ∀ task others,
      spool.takeWrite index = some (task, others) →
        (spool.files.find task.repId).map SpoolFile.bytes =
          task.previous.map SpoolFile.bytes ∧ task.victims = []
  | .removeForDelete repId fails => repId ∉ spool.busy ∧
      (fails = true → spool.files.find repId = none)
  | .sweepNext update fails => update.removesFile = true → fails = false →
      ∀ repId rest, spool.expired = repId :: rest →
        spool.files.find repId = none
  | _ => True

def IsConsistent : Prop :=
  Consistent spool.maxBytes spool.files spool.ledger spool.writes spool.deletes

variable {spool} {after : SpoolManager}

theorem takeWrite_perm {task : WriteTask} {others : List WriteTask}
    (taken : spool.takeWrite index = some (task, others)) :
    spool.writes.Perm (task :: others) := by
  unfold takeWrite at taken
  rcases Option.map_eq_some_iff.mp taken with ⟨found, isFound, same⟩
  rcases List.getElem?_eq_some_iff.mp isFound with ⟨inBounds, isThere⟩
  cases same
  rw [← isThere]
  exact (List.getElem_cons_eraseIdx_perm inBounds).symm

theorem removeFile_find {repId other : String} {fails : Bool} :
    (spool.removeFile repId fails).find other =
      if fails = false ∧ other = repId then none
      else spool.files.find other := by
  unfold removeFile
  cases fails with
  | true => simp
  | false => simp [Table.find_remove]

theorem beginWrite_consistent {repId : String} {bytes : List UInt8}
    (consistent : spool.IsConsistent)
    (orderly : spool.Orderly (.beginWrite repId bytes)) :
    (spool.beginWrite repId bytes).IsConsistent := by
  by_cases tooLong : spool.maxBytes < bytes.length
  · unfold beginWrite
    rw [if_pos tooLong]
    exact consistent
  · have fits := Nat.not_lt.mp tooLong
    rcases orderly fits with ⟨free, freeVictims, room⟩
    unfold beginWrite at room ⊢
    rw [if_neg tooLong] at room ⊢
    have popped := SpoolState.planEviction_popped spool.maxBytes repId
      bytes.length spool.ledger
    apply Consistent.beginWrite consistent popped free freeVictims
    rcases room with none | together
    · right
      left
      refine ⟨_, by rw [none], ?_⟩
      unfold WriteTask.Fits
      simp only
      rw [popped.find, if_neg popped.notIncoming]
      exact SpoolState.planEviction_total spool.ledger fits
    · exact Or.inr (Or.inr together)

theorem evictNext_consistent {fails : Bool} (consistent : spool.IsConsistent)
    (orderly : spool.Orderly (.evictNext index fails))
    (stepped : spool.step (.evictNext index fails) = some after) :
    after.IsConsistent := by
  simp only [step] at stepped
  split at stepped
  · rename_i task others taken
    split at stepped
    · rename_i victim pending isPhase
      cases stepped
      have isPending : task.pending = victim :: pending := by
        unfold WriteTask.pending
        rw [isPhase]
      have perm := Consistent.perm consistent (takeWrite_perm taken)
      have distinct := (nodup_busyIds_cons.mp perm.separate).1
      unfold WriteTask.ids at distinct
      rw [isPending] at distinct
      have notIncoming : task.repId ≠ victim := by
        intro same
        exact (List.nodup_cons.mp distinct).1 (same ▸ List.mem_cons_self)
      have gone : (spool.removeFile victim fails).find victim = none := by
        rw [removeFile_find]
        cases fails with
        | true => simpa using orderly rfl task others victim pending taken isPhase
        | false => simp
      have holds := perm.hold task List.mem_cons_self
      refine perm.ofWrite ?_ ?_ ?_ ?_ ?_ ?_
      · rfl
      · rfl
      · rw [isPending]
        exact List.sublist_cons_self _ _
      · refine ⟨holds.tracked, ?_, ?_⟩
        · intro later isLater
          apply holds.evicted
          rw [isPending]
          exact List.mem_cons_of_mem _ isLater
        · have isFile := holds.file
          rw [isPhase] at isFile
          simp only at isFile ⊢
          rw [removeFile_find, if_neg (fun both => notIncoming both.2)]
          exact isFile
      · intro repId notHeld
        rw [removeFile_find, if_neg]
        intro both
        apply notHeld
        unfold WriteTask.ids
        rw [isPending, both.2]
        exact List.mem_cons_of_mem _ List.mem_cons_self
      · intro repId wasPending notPending
        rw [isPending] at wasPending
        rw [(List.mem_cons.mp wasPending).resolve_right notPending]
        exact gone
    · cases stepped
  · cases stepped

theorem updateFile_find {repId other : String} {left : Option SpoolFile}
    (sameFile : left = spool.files.find repId) :
    (spool.updateFile repId left).find other = spool.files.find other := by
  unfold updateFile
  rw [sameFile]
  cases isFile : spool.files.find repId with
  | none =>
      simp only [Table.find_remove]
      split
      · rename_i isSame
        rw [isSame, isFile]
      · rfl
  | some file =>
      simp only [Table.find_put]
      split
      · rename_i isSame
        rw [isSame, isFile]
      · rfl

theorem writeFile_consistent {modifiedMs : Int}
    {failure : Option (Option SpoolFile)} (consistent : spool.IsConsistent)
    (orderly : spool.Orderly (.writeFile index modifiedMs failure))
    (stepped : spool.step (.writeFile index modifiedMs failure) = some after) :
    after.IsConsistent := by
  simp only [step] at stepped
  split at stepped
  · rename_i task others taken
    split at stepped
    · rename_i isPhase
      have isPending : task.pending = [] := by
        unfold WriteTask.pending
        rw [isPhase]
      have perm := Consistent.perm consistent (takeWrite_perm taken)
      have holds := perm.hold task List.mem_cons_self
      split at stepped
      · rename_i left
        cases stepped
        have sameFile := (orderly left task others rfl taken).1
        refine perm.endWrite isPending (fun _ _ => updateFile_find sameFile)
          (fun _ _ => rfl) ?_ perm.room.tail
        rw [updateFile_find sameFile, holds.tracked]
        have isFile := holds.file
        rw [isPhase] at isFile
        simp only at isFile
        rw [isFile]
      · cases stepped
        refine perm.ofWrite ?_ ?_ ?_ ?_ ?_ ?_
        · rfl
        · rfl
        · exact List.nil_sublist _
        · refine ⟨holds.tracked, nofun, ?_⟩
          simp only [Table.find_put_self, Option.map_some]
        · intro repId notHeld
          apply Table.find_put_of_ne
          intro same
          exact notHeld (same ▸ List.mem_cons_self)
        · intro repId wasPending
          rw [isPending] at wasPending
          cases wasPending
    · cases stepped
  · cases stepped

theorem setPermissions_consistent {fails : Bool}
    (consistent : spool.IsConsistent)
    (orderly : spool.Orderly (.setPermissions index fails))
    (stepped : spool.step (.setPermissions index fails) = some after) :
    after.IsConsistent := by
  simp only [step] at stepped
  split at stepped
  · rename_i task others taken
    split at stepped
    · rename_i isPhase
      have isPending : task.pending = [] := by
        unfold WriteTask.pending
        rw [isPhase]
      have perm := Consistent.perm consistent (takeWrite_perm taken)
      have holds := perm.hold task List.mem_cons_self
      split at stepped
      · rename_i failed
        cases stepped
        have sameBytes := (orderly failed task others taken).1
        refine perm.endWrite isPending (fun _ _ => rfl) (fun _ _ => rfl) ?_
          perm.room.tail
        rw [holds.tracked]
        have sameSize := congrArg (Option.map List.length) sameBytes
        rw [Option.map_map, Option.map_map] at sameSize
        exact sameSize.symm
      · cases stepped
        refine perm.ofWrite ?_ ?_ ?_ ?_ ?_ ?_
        · rfl
        · rfl
        · exact List.nil_sublist _
        · refine ⟨holds.tracked, nofun, ?_⟩
          have isFile := holds.file
          rw [isPhase] at isFile
          exact isFile
        · exact fun _ _ => rfl
        · intro repId wasPending
          rw [isPending] at wasPending
          cases wasPending
    · cases stepped
  · cases stepped

theorem register_consistent (consistent : spool.IsConsistent)
    (stepped : spool.step (.register index) = some after) :
    after.IsConsistent ∧
      ∃ task others, spool.takeWrite index = some (task, others) ∧
        after.ledger.totalBytes ≤ spool.maxBytes ∧
        after.ledger.entries.find task.repId = some task.bytes.length ∧
        (after.files.find task.repId).map SpoolFile.bytes =
          some task.bytes := by
  simp only [step] at stepped
  split at stepped
  · rename_i task others taken
    split at stepped
    · rename_i isPhase
      cases stepped
      have isPending : task.pending = [] := by
        unfold WriteTask.pending
        rw [isPhase]
      have perm := Consistent.perm consistent (takeWrite_perm taken)
      have holds := perm.hold task List.mem_cons_self
      have isFile := holds.file
      rw [isPhase] at isFile
      simp only at isFile
      have isTracked : (spool.ledger.register task.repId
          task.bytes.length).entries.find task.repId =
            some task.bytes.length := by
        rw [spool.ledger.find_register, if_pos rfl]
      refine ⟨?_, task, others, taken, ?_, isTracked, isFile⟩
      · refine perm.endWrite isPending (fun _ _ => rfl) ?_ ?_ ?_
        · intro repId different
          rw [spool.ledger.find_register, if_neg different]
        · rw [isTracked]
          have sameSize := congrArg (Option.map List.length) isFile
          rw [Option.map_map] at sameSize
          exact sameSize.symm
        · apply perm.room.register
          intro other member same
          have apart := (nodup_busyIds_cons.mp perm.separate).2.2 _
            List.mem_cons_self
          apply apart
          rw [← same]
          exact mem_busyIds_of_write member List.mem_cons_self
      · have fits := perm.room.fits
        unfold WriteTask.Fits at fits
        rw [← spool.ledger.register_total] at fits
        exact fits
    · cases stepped
  · cases stepped

theorem step_consistent (consistent : spool.IsConsistent)
    (orderly : spool.Orderly action) (stepped : spool.step action = some after) :
    after.IsConsistent := by
  cases action with
  | beginWrite repId bytes =>
      cases stepped
      exact beginWrite_consistent consistent orderly
  | evictNext index fails =>
      exact evictNext_consistent consistent orderly stepped
  | writeFile index modifiedMs failure =>
      exact writeFile_consistent consistent orderly stepped
  | setPermissions index fails =>
      exact setPermissions_consistent consistent orderly stepped
  | register index => exact (register_consistent consistent stepped).1
  | removeForDelete repId fails =>
      cases stepped
      refine Consistent.beginDelete consistent orderly.1 ?_ ?_
      · rw [removeFile_find]
        cases fails with
        | true => simpa using orderly.2 rfl
        | false => simp
      · intro other different
        rw [removeFile_find, if_neg fun both => different both.2]
  | unregisterDeleted index =>
      simp only [step] at stepped
      rcases Option.map_eq_some_iff.mp stepped with ⟨repId, isFound, same⟩
      rcases List.getElem?_eq_some_iff.mp isFound with ⟨inBounds, isThere⟩
      cases same
      have isPerm : spool.deletes.Perm
          (repId :: spool.deletes.eraseIdx index) := by
        rw [← isThere]
        exact (List.getElem_cons_eraseIdx_perm inBounds).symm
      exact (Consistent.permDeletes consistent isPerm).endDelete
  | listExpired nowMs ttlDays =>
      cases stepped
      exact consistent
  | sweepNext update fails =>
      simp only [step] at stepped
      split at stepped
      · cases stepped
      · rename_i repId rest isExpired
        cases stepped
        apply Consistent.sameFiles consistent
        intro other
        cases removes : update.removesFile with
        | false => simp
        | true =>
            simp only [if_true]
            rw [removeFile_find]
            split
            · rename_i both
              rw [both.2]
              exact (orderly removes both.1 repId rest isExpired).symm
            · rfl

theorem step_maxBytes (stepped : spool.step action = some after) :
    after.maxBytes = spool.maxBytes := by
  cases action with
  | beginWrite repId bytes =>
      cases stepped
      unfold beginWrite
      split <;> rfl
  | unregisterDeleted index =>
      simp only [step] at stepped
      rcases Option.map_eq_some_iff.mp stepped with ⟨_, _, same⟩
      cases same
      rfl
  | evictNext index fails =>
      simp only [step] at stepped
      split at stepped
      · split at stepped <;> cases stepped
        rfl
      · cases stepped
  | writeFile index modifiedMs failure =>
      simp only [step] at stepped
      split at stepped
      · split at stepped
        · split at stepped <;> cases stepped <;> rfl
        · cases stepped
      · cases stepped
  | setPermissions index fails =>
      simp only [step] at stepped
      split at stepped
      · split at stepped
        · split at stepped <;> cases stepped <;> rfl
        · cases stepped
      · cases stepped
  | register index =>
      simp only [step] at stepped
      split at stepped
      · split at stepped <;> cases stepped
        rfl
      · cases stepped
  | removeForDelete repId fails =>
      cases stepped
      rfl
  | listExpired nowMs ttlDays =>
      cases stepped
      rfl
  | sweepNext update fails =>
      simp only [step] at stepped
      split at stepped <;> cases stepped
      rfl

/-! ### The ledger at the start -/

theorem find_registerAll_of_not_mem {rows : List (String × SpoolFile)}
    {state : SpoolState} {repId : String} (absent : repId ∉ rows.map Prod.fst) :
    (registerAll rows state).entries.find repId = state.entries.find repId := by
  induction rows generalizing state with
  | nil => rfl
  | cons row rest inductionHypothesis =>
      rw [List.map_cons, List.mem_cons, not_or] at absent
      have later : (registerAll rest (state.register row.1
          row.2.bytes.length)).entries.find repId = _ :=
        inductionHypothesis absent.2
      rw [state.find_register, if_neg absent.1] at later
      exact later

theorem find_registerAll_of_mem {rows : List (String × SpoolFile)}
    {state : SpoolState} {row : String × SpoolFile}
    (distinct : (rows.map Prod.fst).Nodup) (member : row ∈ rows) :
    (registerAll rows state).entries.find row.1 =
      some row.2.bytes.length := by
  induction rows generalizing state with
  | nil => cases member
  | cons head rest inductionHypothesis =>
      rw [List.map_cons, List.nodup_cons] at distinct
      rcases List.mem_cons.mp member with isHead | inRest
      · have later : (registerAll rest (state.register head.1
            head.2.bytes.length)).entries.find head.1 = _ :=
          find_registerAll_of_not_mem distinct.1
        rw [state.find_register, if_pos rfl] at later
        rw [isHead]
        exact later
      · exact inductionHypothesis distinct.2 inRest

theorem opened_consistent {maxBytes : Nat} {unreadable : String → Bool}
    {files : Table String SpoolFile}
    (readable : ∀ repId, files.find repId ≠ none → unreadable repId = false) :
    (opened maxBytes unreadable files).IsConsistent := by
  have all : (files.rows.filter fun row => !unreadable row.1) = files.rows := by
    rw [List.filter_eq_self]
    rintro ⟨repId, file⟩ member
    have found := Table.mem_rows_iff.mp member
    rw [readable repId (by rw [found]; exact Option.some_ne_none _)]
    rfl
  have sameRows : (oldestFirst files.rows).Perm files.rows :=
    List.perm_insertionSort _ _
  have distinct : ((oldestFirst files.rows).map Prod.fst).Nodup := by
    rw [(sameRows.map Prod.fst).nodup_iff, Table.keys_rows]
    exact files.keys_nodup
  refine ⟨List.nodup_nil, nofun, nofun, ?_, Or.inl rfl⟩
  intro repId _
  simp only [opened, rebuildStateFromDir]
  rw [all]
  cases found : files.find repId with
  | none =>
      rw [find_registerAll_of_not_mem]
      · exact Table.find_empty
      · rw [(sameRows.map Prod.fst).mem_iff, Table.keys_rows]
        exact AList.lookup_eq_none.mp found
  | some file =>
      exact find_registerAll_of_mem distinct
        (sameRows.mem_iff.mpr (Table.mem_rows_iff.mpr found))

/-! ### Whole runs -/

/-- The tracked total is that of the entries, and with no operation under way
the entries are the files. -/
structure LedgerExact (spool : SpoolManager) : Prop where
  total : spool.ledger.totalBytes = entryBytes spool.ledger.entries
  files : spool.writes = [] → spool.deletes = [] → ∀ repId,
    spool.ledger.entries.find repId = sizeOf (spool.files.find repId)

/-- The step ends the write with an error. -/
def FailsWrite (spool : SpoolManager) (task : WriteTask) : SpoolAction → Prop
  | .writeFile index _ (some _) =>
      ∃ others, spool.takeWrite index = some (task, others)
  | .setPermissions index true =>
      ∃ others, spool.takeWrite index = some (task, others)
  | _ => False

theorem failsWrite_unchanged {task : WriteTask}
    (consistent : spool.IsConsistent) (orderly : spool.Orderly action)
    (stepped : spool.step action = some after)
    (fails : spool.FailsWrite task action) :
    task.victims = [] ∧ after.ledger = spool.ledger ∧
      spool.ledger.entries.find task.repId = sizeOf task.previous ∧
      (after.files.find task.repId).map SpoolFile.bytes =
        task.previous.map SpoolFile.bytes ∧
      ∀ other, other ≠ task.repId →
        after.files.find other = spool.files.find other := by
  cases action with
  | writeFile index modifiedMs failure =>
      cases failure with
      | none => cases fails
      | some left =>
          rcases fails with ⟨others, taken⟩
          rcases orderly left task others rfl taken with ⟨sameFile, nothing⟩
          have perm := Consistent.perm consistent (takeWrite_perm taken)
          have holds := perm.hold task List.mem_cons_self
          simp only [step, taken] at stepped
          split at stepped
          · rename_i isPhase
            cases stepped
            have isFile := holds.file
            rw [isPhase] at isFile
            simp only at isFile
            refine ⟨nothing, rfl, holds.tracked, ?_, ?_⟩
            · simp only [updateFile_find sameFile, isFile]
            · intro other _
              exact updateFile_find sameFile
          · cases stepped
  | setPermissions index failed =>
      cases failed with
      | false => cases fails
      | true =>
          rcases fails with ⟨others, taken⟩
          rcases orderly rfl task others taken with ⟨sameBytes, nothing⟩
          have perm := Consistent.perm consistent (takeWrite_perm taken)
          have holds := perm.hold task List.mem_cons_self
          simp only [step, taken] at stepped
          split at stepped
          · cases stepped
            exact ⟨nothing, rfl, holds.tracked, sameBytes, fun _ _ => rfl⟩
          · cases stepped
  | beginWrite repId bytes => cases fails
  | evictNext index failed => cases fails
  | register index => cases fails
  | removeForDelete repId failed => cases fails
  | unregisterDeleted index => cases fails
  | listExpired nowMs ttlDays => cases fails
  | sweepNext update failed => cases fails

theorem run_consistent {start : SpoolManager} (consistent : start.IsConsistent)
    (run : Transition.Run step Orderly start spool) :
    spool.IsConsistent ∧ spool.maxBytes = start.maxBytes := by
  induction run with
  | refl => exact ⟨consistent, rfl⟩
  | tail action _ orderly stepped inductionHypothesis =>
      rcases inductionHypothesis with ⟨isConsistent, sameMax⟩
      refine ⟨step_consistent isConsistent orderly stepped, ?_⟩
      rw [step_maxBytes stepped, sameMax]

/-- In orderly runs the ledger is exact wherever no operation is under way, a
write that registers is within the maximum and there, and a write that fails
leaves the spool as it was. -/
theorem spool_orderly {maxBytes : Nat} {unreadable : String → Bool}
    {files : Table String SpoolFile}
    (readable : ∀ repId, files.find repId ≠ none → unreadable repId = false)
    (run : Transition.Run step Orderly (opened maxBytes unreadable files)
      spool) :
    LedgerExact spool ∧
      ∀ action after, spool.Orderly action → spool.step action = some after →
        (∀ index, action = .register index → ∃ task others,
          spool.takeWrite index = some (task, others) ∧
            after.ledger.totalBytes ≤ maxBytes ∧
            after.ledger.entries.find task.repId = some task.bytes.length ∧
            (after.files.find task.repId).map SpoolFile.bytes =
              some task.bytes) ∧
        (∀ repId bytes, action = .beginWrite repId bytes →
          maxBytes < bytes.length → after = spool) ∧
        ∀ task, spool.FailsWrite task action →
          task.victims = [] ∧ after.ledger = spool.ledger ∧
            spool.ledger.entries.find task.repId = sizeOf task.previous ∧
            (after.files.find task.repId).map SpoolFile.bytes =
              task.previous.map SpoolFile.bytes ∧
            ∀ other, other ≠ task.repId →
              after.files.find other = spool.files.find other := by
  rcases run_consistent (opened_consistent readable) run with
    ⟨consistent, sameMax⟩
  have isMax : spool.maxBytes = maxBytes := sameMax
  refine ⟨⟨spool.ledger.exactly, ?_⟩, ?_⟩
  · intro noWrites noDeletes repId
    apply Consistent.agrees consistent
    rw [noWrites, noDeletes]
    exact List.not_mem_nil
  · intro action after orderly stepped
    refine ⟨?_, ?_, ?_⟩
    · intro index isRegister
      rw [isRegister] at stepped
      rw [← isMax]
      exact (register_consistent consistent stepped).2
    · intro repId bytes isWrite tooLong
      rw [isWrite] at stepped
      cases stepped
      unfold beginWrite
      rw [if_pos (isMax ▸ tooLong)]
    · intro task fails
      exact failsWrite_unchanged consistent orderly stepped fails

end SpoolManager

/-! ## A write, and the janitor after it -/

namespace Sample

def bytes : List UInt8 := [1, 2, 3]

def empty : SpoolManager := .opened 10 (fun _ => false) ∅

def begun : SpoolManager := empty.beginWrite "rep" bytes

def task (phase : WritePhase) : WriteTask :=
  ⟨"rep", bytes, phase, [], none⟩

def files : Table String SpoolFile :=
  (∅ : Table String SpoolFile).put "rep" ⟨bytes, 1000⟩

/-- The bytes are in the directory, and not yet in the ledger. -/
def written : SpoolManager :=
  ⟨10, files, .new, [task .permitted], [], []⟩

theorem run_written : Transition.Run SpoolManager.step SpoolManager.Orderly
    (.opened 10 (fun _ => false) ∅) written := by
  have beginning : Transition.Run SpoolManager.step SpoolManager.Orderly
      (.opened 10 (fun _ => false) ∅)
      ⟨10, ∅, .new, [task (.evicting [])], [], []⟩ := by
    refine .tail (.beginWrite "rep" bytes) .refl ?_ rfl
    intro _
    exact ⟨List.not_mem_nil, nofun, Or.inl rfl⟩
  have writing : Transition.Run SpoolManager.step SpoolManager.Orderly
      (.opened 10 (fun _ => false) ∅)
      ⟨10, files, .new, [task .written], [], []⟩ := by
    refine beginning.tail (.writeFile 0 1000 none) ?_ rfl
    intro left other others failed
    cases failed
  refine writing.tail (.setPermissions 0 false) ?_ rfl
  intro failed
  cases failed

end Sample

open Sample

/-- The write registers its three bytes. -/
theorem written_registers :
    ∃ after, written.step (.register 0) = some after ∧
      after.ledger.totalBytes ≤ 10 ∧
      (after.files.find "rep").map SpoolFile.bytes = some bytes := by
  refine ⟨_, rfl, ?_⟩
  have orderly := SpoolManager.spool_orderly (fun _ _ => rfl) run_written
  rcases (orderly.2 (.register 0) _ trivial rfl).1 0 rfl with
    ⟨other, others, taken, within, _, isThere⟩
  cases taken
  exact ⟨within, isThere⟩

/-- The janitor removes the expired file and leaves it in the ledger. -/
theorem sweep_not_exact :
    ∃ spool, Transition.execute SpoolManager.step
        (.opened 10 (fun _ => false) ∅)
        [.beginWrite "rep" bytes, .writeFile 0 1000 none,
          .setPermissions 0 false, .register 0,
          .listExpired 999999999 7, .sweepNext .updated false] = some spool ∧
      ¬ SpoolManager.LedgerExact spool := by
  refine ⟨_, rfl, ?_⟩
  intro exactly
  have same := exactly.files rfl rfl "rep"
  exact absurd same (by decide)

end OpenClipboard.Spool
