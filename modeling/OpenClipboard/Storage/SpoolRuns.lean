import Mathlib.Data.List.Sort
import OpenClipboard.Library.Transition
import OpenClipboard.Storage.SpoolLedger

/-!
# The spool while its operations interleave

Writes, deletions and the sweeps of the janitor, step by step between their
waits for the file system, which may fail.
-/

namespace OpenClipboard.Spool

/-! ## The state between two steps -/

structure SpoolFile where
  bytes : List UInt8
  modifiedMs : Int
  deriving DecidableEq, Repr

inductive WritePhase where
  | evicting (pending : List String)
  | written
  | permitted
  deriving DecidableEq, Repr

/-- A write under way, with what stood at its path when it began and what it
evicts. -/
structure WriteTask where
  repId : String
  bytes : List UInt8
  phase : WritePhase
  victims : List String
  previous : Option SpoolFile
  deriving DecidableEq, Repr

/-- The evicted files that are still to be removed. -/
def WriteTask.pending (task : WriteTask) : List String :=
  match task.phase with
  | .evicting pending => pending
  | _ => []

structure SpoolManager where
  maxBytes : Nat
  files : Table String SpoolFile
  ledger : SpoolState
  writes : List WriteTask
  /-- Removed from the directory and not yet from the ledger. -/
  deletes : List String
  /-- Listed as expired and not yet swept. -/
  expired : List String

inductive ProcessingUpdate where
  | updated
  | stateMismatch
  | notFound
  | failed
  deriving DecidableEq, Repr

def ProcessingUpdate.removesFile : ProcessingUpdate → Bool
  | .updated => true
  | .notFound => true
  | _ => false

inductive SpoolAction where
  | beginWrite (repId : String) (bytes : List UInt8)
  | evictNext (index : Nat) (fails : Bool)
  /-- `left` is what is at the path where the write fails. -/
  | writeFile (index : Nat) (modifiedMs : Int)
      (failure : Option (Option SpoolFile))
  | setPermissions (index : Nat) (fails : Bool)
  | register (index : Nat)
  | removeForDelete (repId : String) (fails : Bool)
  | unregisterDeleted (index : Nat)
  | listExpired (nowMs : Int) (ttlDays : Nat)
  | sweepNext (update : ProcessingUpdate) (fails : Bool)
  deriving DecidableEq

namespace SpoolManager

/-! ## Opening the spool -/

/-- By the time of the last change, and then by id. -/
def oldestFirst (rows : List (String × SpoolFile)) : List (String × SpoolFile) :=
  rows.insertionSort fun left right =>
    left.2.modifiedMs < right.2.modifiedMs ∨
      left.2.modifiedMs = right.2.modifiedMs ∧ left.1 ≤ right.1

def registerAll (rows : List (String × SpoolFile)) (state : SpoolState) :
    SpoolState :=
  rows.foldl (fun state row => state.register row.1 row.2.bytes.length) state

/-- `rebuild_state_from_dir`: the files that can be read. -/
def rebuildStateFromDir (unreadable : String → Bool)
    (files : Table String SpoolFile) : SpoolState :=
  registerAll (oldestFirst (files.rows.filter fun row => !unreadable row.1))
    .new

def opened (maxBytes : Nat) (unreadable : String → Bool)
    (files : Table String SpoolFile) : SpoolManager where
  maxBytes := maxBytes
  files := files
  ledger := rebuildStateFromDir unreadable files
  writes := []
  deletes := []
  expired := []

/-! ## The steps -/

variable (spool : SpoolManager)

def removeFile (repId : String) (fails : Bool) : Table String SpoolFile :=
  if fails then spool.files else spool.files.remove repId

def updateFile (repId : String) (left : Option SpoolFile) :
    Table String SpoolFile :=
  match left with
  | some file => spool.files.put repId file
  | none => spool.files.remove repId

def takeWrite (index : Nat) : Option (WriteTask × List WriteTask) :=
  spool.writes[index]?.map fun task => (task, spool.writes.eraseIdx index)

/-- A write beyond the maximum is refused; the evictions of another are planned
at once. -/
def beginWrite (repId : String) (bytes : List UInt8) : SpoolManager :=
  if spool.maxBytes < bytes.length then
    spool
  else
    let plan := SpoolState.planEviction spool.maxBytes repId bytes.length
      spool.ledger
    { spool with
      ledger := plan.2
      writes := {
        repId := repId
        bytes := bytes
        phase := .evicting plan.1
        victims := plan.1
        previous := spool.files.find repId } :: spool.writes }

def listExpired (nowMs : Int) (ttlDays : Nat) : List String :=
  ((oldestFirst spool.files.rows).filter fun row =>
    decide ((ttlDays : Int) * 24 * 60 * 60 * 1000 <
      nowMs - row.2.modifiedMs)).map Prod.fst

def step : SpoolAction → Option SpoolManager
  | .beginWrite repId bytes => some (spool.beginWrite repId bytes)
  | .evictNext index fails =>
      match spool.takeWrite index with
      | some (task, others) =>
          match task.phase with
          | .evicting (victim :: pending) =>
              some { spool with
                files := spool.removeFile victim fails
                writes := { task with phase := .evicting pending } :: others }
          | _ => none
      | none => none
  | .writeFile index modifiedMs failure =>
      match spool.takeWrite index with
      | some (task, others) =>
          match task.phase with
          | .evicting [] =>
              match failure with
              | some left =>
                  some { spool with
                    files := spool.updateFile task.repId left
                    writes := others }
              | none =>
                  some { spool with
                    files := spool.files.put task.repId
                      ⟨task.bytes, modifiedMs⟩
                    writes := { task with phase := .written } :: others }
          | _ => none
      | none => none
  | .setPermissions index fails =>
      match spool.takeWrite index with
      | some (task, others) =>
          match task.phase with
          | .written =>
              if fails then
                some { spool with writes := others }
              else
                some { spool with
                  writes := { task with phase := .permitted } :: others }
          | _ => none
      | none => none
  | .register index =>
      match spool.takeWrite index with
      | some (task, others) =>
          match task.phase with
          | .permitted =>
              some { spool with
                ledger := spool.ledger.register task.repId task.bytes.length
                writes := others }
          | _ => none
      | none => none
  | .removeForDelete repId fails =>
      some { spool with
        files := spool.removeFile repId fails
        deletes := repId :: spool.deletes }
  | .unregisterDeleted index =>
      spool.deletes[index]?.map fun repId => { spool with
        ledger := spool.ledger.unregister repId
        deletes := spool.deletes.eraseIdx index }
  | .listExpired nowMs ttlDays =>
      some { spool with expired := spool.listExpired nowMs ttlDays }
  | .sweepNext update fails =>
      match spool.expired with
      | [] => none
      | repId :: rest =>
          some { spool with
            files := if update.removesFile then spool.removeFile repId fails
              else spool.files
            expired := rest }

end SpoolManager

/-! ## The ledger and the directory agree -/

def sizeOf (file : Option SpoolFile) : Option Nat :=
  file.map fun file => file.bytes.length

def WriteTask.ids (task : WriteTask) : List String :=
  task.repId :: task.pending

/-- What the operations under way hold on to. -/
def busyIds (writes : List WriteTask) (deletes : List String) : List String :=
  writes.flatMap WriteTask.ids ++ deletes

def WriteTask.growth (ledger : SpoolState) (task : WriteTask) : Nat :=
  task.bytes.length - (ledger.entries.find task.repId).getD 0

def growths (ledger : SpoolState) (writes : List WriteTask) : Nat :=
  (writes.map (WriteTask.growth ledger)).sum

def WriteTask.Fits (maxBytes : Nat) (ledger : SpoolState) (task : WriteTask) :
    Prop :=
  ledger.totalBytes - (ledger.entries.find task.repId).getD 0 +
    task.bytes.length ≤ maxBytes

/-- The writes under way fit together, or the only one fits. -/
def Room (maxBytes : Nat) (ledger : SpoolState) (writes : List WriteTask) :
    Prop :=
  writes = [] ∨ (∃ task, writes = [task] ∧ task.Fits maxBytes ledger) ∨
    ledger.totalBytes + growths ledger writes ≤ maxBytes

/-- A write whose file is not written yet finds what was there; one that has
written finds its bytes. -/
structure WriteTask.Holds (files : Table String SpoolFile) (ledger : SpoolState)
    (task : WriteTask) : Prop where
  tracked : ledger.entries.find task.repId = sizeOf task.previous
  evicted : ∀ victim ∈ task.pending, ledger.entries.find victim = none
  file : match task.phase with
    | .evicting _ => files.find task.repId = task.previous
    | _ => (files.find task.repId).map SpoolFile.bytes = some task.bytes

structure Consistent (maxBytes : Nat) (files : Table String SpoolFile)
    (ledger : SpoolState) (writes : List WriteTask) (deletes : List String) :
    Prop where
  separate : (busyIds writes deletes).Nodup
  hold : ∀ task ∈ writes, task.Holds files ledger
  deleted : ∀ repId ∈ deletes, files.find repId = none
  agrees : ∀ repId, repId ∉ busyIds writes deletes →
    ledger.entries.find repId = sizeOf (files.find repId)
  room : Room maxBytes ledger writes

theorem WriteTask.Holds.frame {files filesAfter : Table String SpoolFile}
    {ledger after : SpoolState} {task : WriteTask}
    (holds : task.Holds files ledger)
    (sameFile : filesAfter.find task.repId = files.find task.repId)
    (sameEntries : ∀ repId ∈ task.ids,
      after.entries.find repId = ledger.entries.find repId) :
    task.Holds filesAfter after := by
  refine ⟨?_, ?_, ?_⟩
  · rw [sameEntries task.repId List.mem_cons_self]
    exact holds.tracked
  · intro victim isPending
    rw [sameEntries victim (List.mem_cons_of_mem _ isPending)]
    exact holds.evicted victim isPending
  · rw [sameFile]
    exact holds.file

variable {repId : String} {filesAfter : Table String SpoolFile}

section Rules

variable {maxBytes : Nat} {files : Table String SpoolFile} {ledger : SpoolState}
variable {writes others : List WriteTask} {deletes : List String}
variable {task : WriteTask}

theorem mem_busyIds_cons :
    repId ∈ busyIds (task :: others) deletes ↔
      repId ∈ task.ids ∨ repId ∈ busyIds others deletes := by
  unfold busyIds
  rw [List.flatMap_cons, List.append_assoc, List.mem_append]

theorem mem_busyIds_of_write (member : task ∈ writes)
    (isHeld : repId ∈ task.ids) : repId ∈ busyIds writes deletes :=
  List.mem_append_left _ (List.mem_flatMap.mpr ⟨task, member, isHeld⟩)

theorem mem_busyIds_of_delete (member : repId ∈ deletes) :
    repId ∈ busyIds writes deletes :=
  List.mem_append_right _ member

theorem nodup_busyIds_cons :
    (busyIds (task :: others) deletes).Nodup ↔
      task.ids.Nodup ∧ (busyIds others deletes).Nodup ∧
        ∀ repId ∈ task.ids, repId ∉ busyIds others deletes := by
  unfold busyIds
  rw [List.flatMap_cons, List.append_assoc, List.nodup_append']
  rfl

theorem Room.perm (room : Room maxBytes ledger writes)
    (isPerm : writes.Perm others) : Room maxBytes ledger others := by
  rcases room with isEmpty | ⟨only, isOnly, fits⟩ | together
  · left
    rw [isEmpty] at isPerm
    exact isPerm.nil_eq.symm
  · right
    left
    rw [isOnly] at isPerm
    exact ⟨only, (List.perm_singleton.mp isPerm.symm), fits⟩
  · right
    right
    have same : growths ledger writes = growths ledger others :=
      (isPerm.map _).sum_eq
    rw [← same]
    exact together

theorem Consistent.perm
    (consistent : Consistent maxBytes files ledger writes deletes)
    (isPerm : writes.Perm others) :
    Consistent maxBytes files ledger others deletes := by
  have sameBusy : (busyIds writes deletes).Perm (busyIds others deletes) :=
    (isPerm.flatMap_right _).append_right _
  refine ⟨?_, ?_, consistent.deleted, ?_, consistent.room.perm isPerm⟩
  · exact sameBusy.nodup_iff.mp consistent.separate
  · intro other member
    exact consistent.hold other (isPerm.mem_iff.mpr member)
  · intro repId notBusy
    exact consistent.agrees repId fun busy =>
      notBusy (sameBusy.mem_iff.mp busy)

theorem Consistent.permDeletes {remaining : List String}
    (consistent : Consistent maxBytes files ledger writes deletes)
    (isPerm : deletes.Perm remaining) :
    Consistent maxBytes files ledger writes remaining := by
  have sameBusy : (busyIds writes deletes).Perm (busyIds writes remaining) :=
    isPerm.append_left _
  refine ⟨?_, consistent.hold, ?_, ?_, consistent.room⟩
  · exact sameBusy.nodup_iff.mp consistent.separate
  · intro repId member
    exact consistent.deleted repId (isPerm.mem_iff.mpr member)
  · intro repId notBusy
    exact consistent.agrees repId fun busy =>
      notBusy (sameBusy.mem_iff.mp busy)

/-! ## What one step keeps -/

theorem Consistent.ofWrite {later : WriteTask}
    (consistent : Consistent maxBytes files ledger (task :: others) deletes)
    (sameId : later.repId = task.repId) (sameBytes : later.bytes = task.bytes)
    (isSublist : later.pending.Sublist task.pending)
    (holds : later.Holds filesAfter ledger)
    (sameElsewhere : ∀ repId, repId ∉ task.ids →
      filesAfter.find repId = files.find repId)
    (agreed : ∀ repId ∈ task.pending, repId ∉ later.pending →
      filesAfter.find repId = none) :
    Consistent maxBytes filesAfter ledger (later :: others) deletes := by
  have subIds : later.ids.Sublist task.ids := by
    unfold WriteTask.ids
    rw [sameId]
    exact isSublist.cons_cons _
  rcases nodup_busyIds_cons.mp consistent.separate with
    ⟨distinct, separate, apart⟩
  refine ⟨?_, ?_, ?_, ?_, ?_⟩
  · exact nodup_busyIds_cons.mpr ⟨distinct.sublist subIds, separate,
      fun repId isHeld => apart repId (subIds.subset isHeld)⟩
  · intro other member
    rcases List.mem_cons.mp member with isLater | isOther
    · rw [isLater]
      exact holds
    · apply (consistent.hold other (List.mem_cons_of_mem _ isOther)).frame
      · apply sameElsewhere
        intro isHeld
        exact apart _ isHeld
          (mem_busyIds_of_write isOther List.mem_cons_self)
      · exact fun _ _ => rfl
  · intro repId isDelete
    rw [sameElsewhere repId fun isHeld =>
      apart repId isHeld (mem_busyIds_of_delete isDelete)]
    exact consistent.deleted repId isDelete
  · intro repId notBusy
    rw [mem_busyIds_cons, not_or] at notBusy
    by_cases wasHeld : repId ∈ task.ids
    · have notLater := notBusy.1
      unfold WriteTask.ids at wasHeld notLater
      rw [List.mem_cons, not_or, sameId] at notLater
      have wasPending := (List.mem_cons.mp wasHeld).resolve_left notLater.1
      rw [agreed repId wasPending notLater.2]
      exact (consistent.hold task List.mem_cons_self).evicted repId wasPending
    · rw [sameElsewhere repId wasHeld]
      apply consistent.agrees
      rw [mem_busyIds_cons, not_or]
      exact ⟨wasHeld, notBusy.2⟩
  · have sameGrowth : later.growth ledger = task.growth ledger := by
      unfold WriteTask.growth
      rw [sameId, sameBytes]
    rcases consistent.room with isEmpty | ⟨only, isOnly, fits⟩ | together
    · cases isEmpty
    · right
      left
      rw [List.cons.injEq] at isOnly
      refine ⟨later, ?_, ?_⟩
      · rw [isOnly.2]
      · unfold WriteTask.Fits
        rw [sameId, sameBytes, isOnly.1]
        exact fits
    · right
      right
      unfold growths at together ⊢
      rw [List.map_cons, List.sum_cons] at together ⊢
      rw [sameGrowth]
      exact together

theorem Room.tail (room : Room maxBytes ledger (task :: others)) :
    Room maxBytes ledger others := by
  rcases room with isEmpty | ⟨only, isOnly, _⟩ | together
  · cases isEmpty
  · left
    exact (List.cons.inj isOnly).2
  · right
    right
    unfold growths at together ⊢
    rw [List.map_cons, List.sum_cons] at together
    omega

theorem Consistent.endWrite {after : SpoolState}
    (consistent : Consistent maxBytes files ledger (task :: others) deletes)
    (nonePending : task.pending = [])
    (sameFiles : ∀ repId, repId ≠ task.repId →
      filesAfter.find repId = files.find repId)
    (sameEntries : ∀ repId, repId ≠ task.repId →
      after.entries.find repId = ledger.entries.find repId)
    (agreed : after.entries.find task.repId =
      sizeOf (filesAfter.find task.repId)) (room : Room maxBytes after others) :
    Consistent maxBytes filesAfter after others deletes := by
  have onlyId : ∀ repId, repId ∈ task.ids ↔ repId = task.repId := by
    intro repId
    unfold WriteTask.ids
    rw [nonePending, List.mem_singleton]
  rcases nodup_busyIds_cons.mp consistent.separate with ⟨_, separate, apart⟩
  have notBusy : task.repId ∉ busyIds others deletes :=
    apart _ List.mem_cons_self
  refine ⟨separate, ?_, ?_, ?_, room⟩
  · intro other member
    apply (consistent.hold other (List.mem_cons_of_mem _ member)).frame
    · apply sameFiles
      intro same
      apply notBusy
      rw [← same]
      exact mem_busyIds_of_write member List.mem_cons_self
    · intro repId isHeld
      apply sameEntries
      intro same
      apply notBusy
      rw [← same]
      exact mem_busyIds_of_write member isHeld
  · intro repId isDelete
    rw [sameFiles repId fun same =>
      notBusy (same ▸ mem_busyIds_of_delete isDelete)]
    exact consistent.deleted repId isDelete
  · intro repId isFree
    by_cases same : repId = task.repId
    · rw [same]
      exact agreed
    · rw [sameFiles repId same, sameEntries repId same]
      apply consistent.agrees
      rw [mem_busyIds_cons, not_or, onlyId]
      exact ⟨same, isFree⟩

theorem Room.register (room : Room maxBytes ledger (task :: others))
    (apart : ∀ other ∈ others, other.repId ≠ task.repId) :
    Room maxBytes (ledger.register task.repId task.bytes.length) others := by
  rcases room with isEmpty | ⟨only, isOnly, _⟩ | together
  · cases isEmpty
  · left
    exact (List.cons.inj isOnly).2
  · right
    right
    have sameGrowths : growths (ledger.register task.repId task.bytes.length)
        others = growths ledger others := by
      unfold growths
      congr 1
      apply List.map_congr_left
      intro other member
      unfold WriteTask.growth
      rw [ledger.find_register, if_neg (apart other member)]
    rw [sameGrowths, ledger.register_total]
    have upTo := ledger.size_le_total task.repId
    unfold growths WriteTask.growth at together ⊢
    rw [List.map_cons, List.sum_cons] at together
    omega

theorem Room.fits (room : Room maxBytes ledger (task :: others)) :
    task.Fits maxBytes ledger := by
  rcases room with isEmpty | ⟨only, isOnly, fits⟩ | together
  · cases isEmpty
  · rw [(List.cons.inj isOnly).1]
    exact fits
  · have upTo := ledger.size_le_total task.repId
    unfold growths at together
    rw [List.map_cons, List.sum_cons] at together
    unfold WriteTask.growth at together
    unfold WriteTask.Fits
    omega

theorem Room.unregister (room : Room maxBytes ledger writes)
    (apart : ∀ other ∈ writes, other.repId ≠ repId) :
    Room maxBytes (ledger.unregister repId) writes := by
  have sameFind : ∀ other ∈ writes,
      (ledger.unregister repId).entries.find other.repId =
        ledger.entries.find other.repId := by
    intro other member
    rw [ledger.find_unregister, if_neg (apart other member)]
  have less : (ledger.unregister repId).totalBytes ≤ ledger.totalBytes := by
    rw [ledger.unregister_total]
    exact Nat.sub_le _ _
  rcases room with isEmpty | ⟨only, isOnly, fits⟩ | together
  · exact Or.inl isEmpty
  · right
    left
    refine ⟨only, isOnly, ?_⟩
    have member : only ∈ writes := by
      rw [isOnly]
      exact List.mem_singleton_self _
    unfold WriteTask.Fits at fits ⊢
    rw [sameFind only member]
    omega
  · right
    right
    have sameGrowths : growths (ledger.unregister repId) writes =
        growths ledger writes := by
      unfold growths
      congr 1
      apply List.map_congr_left
      intro other member
      unfold WriteTask.growth
      rw [sameFind other member]
    rw [sameGrowths]
    omega

theorem Consistent.beginWrite {bytes : List UInt8} {victims : List String}
    {after : SpoolState}
    (consistent : Consistent maxBytes files ledger writes deletes)
    (popped : ledger.Popped repId victims after)
    (free : repId ∉ busyIds writes deletes)
    (freeVictims : ∀ victim ∈ victims, victim ∉ busyIds writes deletes)
    (room : Room maxBytes after (⟨repId, bytes, .evicting victims, victims,
      files.find repId⟩ :: writes)) :
    Consistent maxBytes files after (⟨repId, bytes, .evicting victims, victims,
      files.find repId⟩ :: writes) deletes := by
  have notVictim : ∀ other, other ∉ victims →
      after.entries.find other = ledger.entries.find other := by
    intro other spared
    rw [popped.find, if_neg spared]
  refine ⟨?_, ?_, consistent.deleted, ?_, room⟩
  · refine nodup_busyIds_cons.mpr ⟨?_, consistent.separate, ?_⟩
    · exact List.nodup_cons.mpr ⟨popped.notIncoming, popped.distinct⟩
    · intro other isHeld
      rcases List.mem_cons.mp isHeld with isIncoming | isVictim
      · rw [isIncoming]
        exact free
      · exact freeVictims other isVictim
  · intro other member
    rcases List.mem_cons.mp member with isNew | wasThere
    · rw [isNew]
      refine ⟨?_, ?_, rfl⟩
      · rw [notVictim repId popped.notIncoming]
        exact consistent.agrees repId free
      · intro victim isVictim
        rw [popped.find]
        exact if_pos isVictim
    · apply (consistent.hold other wasThere).frame rfl
      intro held isHeld
      apply notVictim
      intro isVictim
      exact freeVictims held isVictim (mem_busyIds_of_write wasThere isHeld)
  · intro other isFree
    rw [mem_busyIds_cons, not_or] at isFree
    rw [notVictim other fun isVictim =>
      isFree.1 (List.mem_cons_of_mem _ isVictim)]
    exact consistent.agrees other isFree.2

theorem Consistent.beginDelete
    (consistent : Consistent maxBytes files ledger writes deletes)
    (free : repId ∉ busyIds writes deletes)
    (gone : filesAfter.find repId = none)
    (sameElsewhere : ∀ other, other ≠ repId →
      filesAfter.find other = files.find other) :
    Consistent maxBytes filesAfter ledger writes (repId :: deletes) := by
  have sameBusy : (busyIds writes (repId :: deletes)).Perm
      (repId :: busyIds writes deletes) := List.perm_middle
  refine ⟨?_, ?_, ?_, ?_, consistent.room⟩
  · rw [sameBusy.nodup_iff]
    exact List.nodup_cons.mpr ⟨free, consistent.separate⟩
  · intro task member
    apply (consistent.hold task member).frame
    · apply sameElsewhere
      intro same
      apply free
      rw [← same]
      exact mem_busyIds_of_write member List.mem_cons_self
    · exact fun _ _ => rfl
  · intro other isDelete
    by_cases same : other = repId
    · rw [same]
      exact gone
    · rw [sameElsewhere other same]
      exact consistent.deleted other
        ((List.mem_cons.mp isDelete).resolve_left same)
  · intro other isFree
    rw [sameBusy.mem_iff, List.mem_cons, not_or] at isFree
    rw [sameElsewhere other isFree.1]
    exact consistent.agrees other isFree.2

theorem Consistent.endDelete
    (consistent : Consistent maxBytes files ledger writes (repId :: deletes)) :
    Consistent maxBytes files (ledger.unregister repId) writes deletes := by
  have sameBusy : (busyIds writes (repId :: deletes)).Perm
      (repId :: busyIds writes deletes) := List.perm_middle
  rcases List.nodup_cons.mp (sameBusy.nodup_iff.mp consistent.separate) with
    ⟨free, separate⟩
  have apart : ∀ task ∈ writes, ∀ held ∈ task.ids, held ≠ repId := by
    intro task member held isHeld same
    exact free (same ▸ mem_busyIds_of_write member isHeld)
  refine ⟨separate, ?_, ?_, ?_, ?_⟩
  · intro task member
    apply (consistent.hold task member).frame rfl
    intro held isHeld
    rw [ledger.find_unregister, if_neg (apart task member held isHeld)]
  · intro other isDelete
    exact consistent.deleted other (List.mem_cons_of_mem _ isDelete)
  · intro other isFree
    rw [ledger.find_unregister]
    by_cases same : other = repId
    · rw [if_pos same, same, consistent.deleted repId List.mem_cons_self]
      rfl
    · rw [if_neg same]
      apply consistent.agrees
      rw [sameBusy.mem_iff, List.mem_cons, not_or]
      exact ⟨same, isFree⟩
  · apply consistent.room.unregister
    intro task member
    exact apart task member task.repId List.mem_cons_self

theorem Consistent.sameFiles
    (consistent : Consistent maxBytes files ledger writes deletes)
    (same : ∀ repId, filesAfter.find repId = files.find repId) :
    Consistent maxBytes filesAfter ledger writes deletes := by
  refine ⟨consistent.separate, ?_, ?_, ?_, consistent.room⟩
  · intro task member
    exact (consistent.hold task member).frame (same _) fun _ _ => rfl
  · intro repId isDelete
    rw [same]
    exact consistent.deleted repId isDelete
  · intro repId isFree
    rw [same]
    exact consistent.agrees repId isFree

end Rules

end OpenClipboard.Spool
