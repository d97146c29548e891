import Mathlib
import OpenClipboard.History.DeleteEntry

/-!
# Automatic deletion

The sweeps that delete entries on their own: cached files past their retention
time, the cache quota, the retention policy, and the reconciliation of entries
whose files are gone.
-/

namespace OpenClipboard.History

/-- What a sweep finds in its surroundings: the time, and what fails. -/
structure SweepEnv where
  nowMs : Int
  listEntriesFails : Bool
  loadFails : String → Bool
  readDirFails : Location → Bool
  metadataFails : Location → Bool
  orphanRemovalFails : Location → Bool
  dirRemovalFails : Location → Bool
  existsFails : OsPath → Bool
  deleteFaults : String → DeleteFaults

def SweepEnv.working (nowMs : Int) : SweepEnv where
  nowMs := nowMs
  listEntriesFails := false
  loadFails _ := false
  readDirFails _ := false
  metadataFails _ := false
  orphanRemovalFails _ := false
  dirRemovalFails _ := false
  existsFails _ := false
  deleteFaults _ := .none

/-! ## Listing the entries -/

def entryListBatchSize : Nat := 1000

namespace HistoryStore

def listEntries (store : HistoryStore) (limit offset : Nat) :
    List ClipboardEntry :=
  (store.entries.drop offset).take limit

def listBatches (store : HistoryStore) : Nat → Nat → List ClipboardEntry
  | 0, _ => []
  | fuel + 1, offset =>
      store.listEntries entryListBatchSize offset ++
        if (store.listEntries entryListBatchSize offset).length <
            entryListBatchSize then
          []
        else
          store.listBatches fuel (offset +
            (store.listEntries entryListBatchSize offset).length)

def allEntries (store : HistoryStore) : List ClipboardEntry :=
  store.listBatches (store.entries.length + 1) 0

theorem listBatches_eq {store : HistoryStore} {fuel offset : Nat}
    (enough : store.entries.length < fuel + offset) :
    store.listBatches fuel offset = store.entries.drop offset := by
  induction fuel generalizing offset with
  | zero =>
      rw [listBatches, List.drop_eq_nil_of_le (by omega)]
  | succ fuel inductionHypothesis =>
      have batch : store.listEntries entryListBatchSize offset =
          (store.entries.drop offset).take entryListBatchSize := rfl
      have positive : 0 < entryListBatchSize := by decide
      rw [listBatches, batch, List.length_take, List.length_drop]
      by_cases isLast : min entryListBatchSize
          (store.entries.length - offset) < entryListBatchSize
      · rw [if_pos isLast, List.append_nil]
        apply List.take_of_length_le
        rw [List.length_drop]
        omega
      · rw [if_neg isLast, inductionHypothesis (by omega)]
        have full : min entryListBatchSize (store.entries.length - offset) =
            entryListBatchSize := by omega
        rw [full, ← List.drop_drop, List.take_append_drop]

theorem allEntries_eq (store : HistoryStore) :
    store.allEntries = store.entries := by
  unfold allEntries
  rw [listBatches_eq (by omega), List.drop_zero]

end HistoryStore

section Sweeps

variable (fileUrlPath : FileUrlPath) (cacheDir : Location) (env : SweepEnv)

/-! ## Deleting what was selected -/

structure DeleteCounts where
  entriesDeleted : Nat
  errors : Nat
  deriving DecidableEq, Repr

/-- Delete the entries one by one; a failure is counted. -/
def deleteEach (counts : DeleteCounts) (store : HistoryStore) :
    List String → DeleteCounts × HistoryStore
  | [] => (counts, store)
  | entryId :: rest =>
      match deleteEntry fileUrlPath cacheDir (env.deleteFaults entryId)
          entryId store with
      | (.ok _, after) =>
          deleteEach { counts with
            entriesDeleted := counts.entriesDeleted + 1 } after rest
      | (.error _, after) =>
          deleteEach { counts with errors := counts.errors + 1 } after rest

variable {fileUrlPath cacheDir env}

theorem deleteEach_snd {counts : DeleteCounts} {store : HistoryStore}
    {entryIds : List String} :
    (deleteEach fileUrlPath cacheDir env counts store entryIds).2 =
      entryIds.foldl (fun store entryId =>
        (deleteEntry fileUrlPath cacheDir (env.deleteFaults entryId) entryId
          store).2) store := by
  induction entryIds generalizing counts store with
  | nil => rfl
  | cons entryId rest inductionHypothesis =>
      rw [deleteEach, List.foldl_cons]
      split
      · rename_i after isAfter
        rw [isAfter]
        exact inductionHypothesis
      · rename_i after isAfter
        rw [isAfter]
        exact inductionHypothesis

theorem mem_deleteEach_entries {counts : DeleteCounts} {store : HistoryStore}
    {entryIds : List String} {entry : ClipboardEntry} :
    entry ∈ (deleteEach fileUrlPath cacheDir env counts store
        entryIds).2.entries ↔
      entry ∈ store.entries ∧ ¬ (entry.entryId ∈ entryIds ∧
        (env.deleteFaults entry.entryId).removesRow = true) := by
  rw [deleteEach_snd]
  induction entryIds generalizing store with
  | nil => simp
  | cons entryId rest inductionHypothesis =>
      rw [List.foldl_cons, inductionHypothesis, deleteEntry_entries]
      by_cases removes : (env.deleteFaults entryId).removesRow = true
      · rw [if_pos removes, List.mem_filter, decide_eq_true_eq]
        by_cases same : entry.entryId = entryId
        · rw [same]
          simp [removes]
        · simp [same]
      · rw [if_neg removes]
        by_cases same : entry.entryId = entryId
        · rw [same]
          simp [removes]
        · simp [same]

variable (fileUrlPath cacheDir env)

/-! ## Cached files past their retention time -/

structure CleanupResult where
  filesRemoved : Nat
  bytesReclaimed : Nat
  entriesDeleted : Nat
  orphansRemoved : Nat
  errors : Nat
  deriving DecidableEq, Repr

def Disk.depth (disk : Disk) : Nat :=
  (disk.nodes.rows.map fun row => row.1.length).foldr max 0

/-- `collect_expired_recursive`, down to a depth. -/
def collectExpired (retentionMs : Int) (disk : Disk) :
    Nat → Location → List (Location × Nat)
  | 0, _ => []
  | depth + 1, dir =>
      if env.readDirFails dir then
        []
      else
        (disk.children dir).flatMap fun child =>
          match child.2 with
          | .directory => collectExpired retentionMs disk depth child.1
          | .file sizeBytes modifiedUnixMs =>
              if env.metadataFails child.1 then
                []
              else if retentionMs ≤
                  (modifiedUnixMs.map fun ms => env.nowMs - ms).getD 0 then
                [(child.1, sizeBytes)]
              else
                []

def collectExpiredFiles (retentionMs : Int) (disk : Disk) :
    List (Location × Nat) :=
  collectExpired env retentionMs disk (disk.depth + 1) cacheDir

/-- An entry's part of the index; where its representations cannot be loaded it
has none. -/
def indexEntry (store : HistoryStore) (index : Table PathBuf String)
    (entry : ClipboardEntry) : Table PathBuf String :=
  if env.loadFails entry.eventId then
    index
  else
    (shownPaths fileUrlPath cacheDir
      (store.representationsOf entry.eventId)).foldl
        (fun index path => index.put path.path entry.entryId) index

def buildReverseIndex (store : HistoryStore) : Table PathBuf String :=
  store.allEntries.foldl (indexEntry fileUrlPath cacheDir env store) ∅

/-- The sweep between two files. -/
structure TtlSweep where
  store : HistoryStore
  handledEntries : List String
  result : CleanupResult

/-- One expired file: delete the entry that owns it, or the file itself where
none does. -/
def sweepExpiredFile (index : Table PathBuf String) (sweep : TtlSweep)
    (file : Location × Nat) : TtlSweep :=
  match index.find file.1.path with
  | some entryId =>
      if entryId ∈ sweep.handledEntries then
        { sweep with
          result := { sweep.result with
            filesRemoved := sweep.result.filesRemoved + 1
            bytesReclaimed := sweep.result.bytesReclaimed + file.2 } }
      else
        match deleteEntry fileUrlPath cacheDir (env.deleteFaults entryId)
            entryId sweep.store with
        | (.ok _, after) => {
            store := after
            handledEntries := entryId :: sweep.handledEntries
            result := { sweep.result with
              entriesDeleted := sweep.result.entriesDeleted + 1
              filesRemoved := sweep.result.filesRemoved + 1
              bytesReclaimed := sweep.result.bytesReclaimed + file.2 } }
        | (.error _, after) => {
            store := after
            handledEntries := entryId :: sweep.handledEntries
            result := { sweep.result with
              errors := sweep.result.errors + 1 } }
  | none =>
      if sweep.store.disk.pathExists file.1.osPath then
        match if env.orphanRemovalFails file.1 then none
            else sweep.store.disk.removeFile file.1.osPath with
        | some disk => { sweep with
            store := { sweep.store with disk := disk }
            result := { sweep.result with
              orphansRemoved := sweep.result.orphansRemoved + 1
              filesRemoved := sweep.result.filesRemoved + 1
              bytesReclaimed := sweep.result.bytesReclaimed + file.2 } }
        | none => { sweep with
            result := { sweep.result with errors := sweep.result.errors + 1 } }
      else
        { sweep with
          result := { sweep.result with
            orphansRemoved := sweep.result.orphansRemoved + 1
            filesRemoved := sweep.result.filesRemoved + 1 } }

def removeIfEmpty (disk : Disk) (child : Location × FsNode) : Disk :=
  if child.2 = .directory ∧ env.readDirFails child.1 = false ∧
      disk.children child.1 = [] ∧ env.dirRemovalFails child.1 = false then
    (disk.removeDir child.1.path).getD disk
  else
    disk

def cleanupEmptyDirs (disk : Disk) : Disk :=
  if env.readDirFails cacheDir then
    disk
  else
    (disk.children cacheDir).foldl (removeIfEmpty env) disk

def runFileCacheTtl (retentionHours : Nat) (result : CleanupResult)
    (store : HistoryStore) : CleanupResult × HistoryStore :=
  if !(store.disk.pathExists cacheDir.osPath) then
    (result, store)
  else if collectExpiredFiles cacheDir env (retentionHours * 3600 * 1000)
      store.disk = [] then
    (result, store)
  else if env.listEntriesFails then
    ({ result with errors := result.errors + 1 }, store)
  else
    match (collectExpiredFiles cacheDir env (retentionHours * 3600 * 1000)
        store.disk).foldl
          (sweepExpiredFile fileUrlPath cacheDir env
            (buildReverseIndex fileUrlPath cacheDir env store))
          ⟨store, [], result⟩ with
    | ⟨after, _, swept⟩ =>
        (swept, { after with
          disk := cleanupEmptyDirs cacheDir env after.disk })

/-! ## The cache quota -/

structure DiskBackedEntry where
  entryId : String
  createdAtMs : Int
  diskBytes : Nat
  isFavorited : Bool
  deriving DecidableEq, Repr

def isDiskBacked : PayloadAvailability → Bool
  | .blobReady => true
  | .staged => true
  | .processing => true
  | _ => false

def diskBytes (representations : List StoredRepresentation) : Nat :=
  ((representations.filter fun stored =>
    isDiskBacked stored.rep.payloadState).map fun stored =>
      stored.rep.sizeBytes.toNat).sum

def collectDiskBackedEntries (store : HistoryStore) : List DiskBackedEntry :=
  store.allEntries.filterMap fun entry =>
    if env.loadFails entry.eventId then
      none
    else if diskBytes (store.representationsOf entry.eventId) = 0 then
      none
    else
      some {
        entryId := entry.entryId
        createdAtMs := entry.createdAtMs
        diskBytes := diskBytes (store.representationsOf entry.eventId)
        isFavorited := entry.isFavorited }

/-- Evict from the front until what is left fits; the last one stays. -/
def evictUntilWithin (quotaBytes total : Nat) :
    Nat → List DiskBackedEntry → List String
  | _, [] => []
  | freed, entry :: rest =>
      if total - freed ≤ quotaBytes then
        []
      else if rest = [] then
        []
      else
        entry.entryId ::
          evictUntilWithin quotaBytes total (freed + entry.diskBytes) rest

def selectEntriesToEvictForQuota (entries : List DiskBackedEntry)
    (quotaBytes : Nat) (skipPinned : Bool) : List String :=
  let candidates :=
    if skipPinned then entries.filter fun entry => !entry.isFavorited
    else entries
  if quotaBytes = 0 then
    []
  else
    evictUntilWithin quotaBytes (candidates.map DiskBackedEntry.diskBytes).sum
      0 (candidates.insertionSort fun left right =>
        left.createdAtMs ≤ right.createdAtMs)

def quotaVictims (quotaBytes : Nat) (skipPinned : Bool) (baselineMs : Int)
    (store : HistoryStore) : List String :=
  selectEntriesToEvictForQuota
    ((collectDiskBackedEntries env store).filter fun entry =>
      decide (baselineMs ≤ entry.createdAtMs))
    quotaBytes skipPinned

/-- `run_quota`; its first run only records when it ran. -/
def runQuota (quotaBytes : Nat) (skipPinned baselineWritten : Bool)
    (counts : DeleteCounts) (store : HistoryStore) :
    DeleteCounts × HistoryStore :=
  if quotaBytes = 0 then
    (counts, store)
  else if cacheDir = [] then
    (counts, store)
  else
    match store.quotaBaseline with
    | .unreadable => (counts, store)
    | .absent =>
        (counts,
          if baselineWritten then
            { store with quotaBaseline := .recorded env.nowMs }
          else
            store)
    | .recorded baselineMs =>
        if env.listEntriesFails then
          (counts, store)
        else
          deleteEach fileUrlPath cacheDir env counts store
            (quotaVictims env quotaBytes skipPinned baselineMs store)

/-! ## The retention policy -/

inductive RetentionRule where
  | byAge (maxAgeMs : Nat)
  | byCount (maxItems : Nat)
  | byContentType (maxAgeMs : Nat)
  | byTotalSize (maxBytes : Nat)
  | sensitive (maxAgeMs : Nat)
  deriving DecidableEq, Repr

inductive RuleEvaluation where
  | anyMatch
  | allMatch
  deriving DecidableEq, Repr

structure RetentionPolicy where
  enabled : Bool
  rules : List RetentionRule
  skipPinned : Bool
  evaluation : RuleEvaluation
  deriving DecidableEq, Repr

def RetentionRule.isSupported : RetentionRule → Bool
  | .byAge _ => true
  | .byCount _ => true
  | _ => false

/-- `value as i64`. -/
def asI64 (value : Nat) : Int := (value : Int).bmod 18446744073709551616

def saturatingSub (left right : Int) : Int :=
  max (-9223372036854775808) (min 9223372036854775807 (left - right))

/-- The set of a rule, from the newest candidate on; a rule that is not
supported has none. -/
def ruleSet (nowMs : Int) (candidates : List ClipboardEntry) :
    RetentionRule → Option (List String)
  | .byAge maxAgeMs =>
      some ((candidates.filter fun candidate =>
        decide (candidate.createdAtMs <
          saturatingSub nowMs (asI64 maxAgeMs))).map ClipboardEntry.entryId)
  | .byCount maxItems =>
      some ((candidates.drop maxItems).map ClipboardEntry.entryId)
  | _ => none

def combineRuleSets : RuleEvaluation → List (List String) → List String
  | _, [] => []
  | .anyMatch, first :: rest => (first :: rest).flatten.dedup
  | .allMatch, first :: rest =>
      first.filter fun entryId => rest.all fun set => decide (entryId ∈ set)

def selectEntriesToEvictForRetention (candidates : List ClipboardEntry)
    (rules : List RetentionRule) (evaluation : RuleEvaluation)
    (skipPinned : Bool) (nowMs : Int) : List String :=
  let kept :=
    if skipPinned then candidates.filter fun entry => !entry.isFavorited
    else candidates
  let newestFirst := kept.insertionSort fun left right =>
    right.createdAtMs ≤ left.createdAtMs
  combineRuleSets evaluation (rules.filterMap (ruleSet nowMs newestFirst))

/-- The order in which a hash set gives its elements. -/
structure HashOrder where
  order : List String → List String
  perm : ∀ elements, (order elements).Perm elements

/-- `EnforceRetentionPolicyUseCase::execute`. -/
def enforceRetention (policy : RetentionPolicy) (hashOrder : HashOrder)
    (store : HistoryStore) : DeleteCounts × HistoryStore :=
  if policy.enabled && policy.rules.all RetentionRule.isSupported &&
      !env.listEntriesFails then
    deleteEach fileUrlPath cacheDir env ⟨0, 0⟩ store
      (hashOrder.order (selectEntriesToEvictForRetention store.allEntries
        policy.rules policy.evaluation policy.skipPinned env.nowMs))
  else
    (⟨0, 0⟩, store)

/-! ## Entries whose files are gone -/

/-- `cache_fs.exists`: a path that cannot be looked up does not exist. -/
def cacheFsExists (disk : Disk) (path : OsPath) : Bool :=
  !env.existsFails path && disk.pathExists path

/-- None where the representations cannot be loaded. -/
def entryHasMissingCacheFile (store : HistoryStore) (eventId : String) :
    Option Bool :=
  if env.loadFails eventId then
    none
  else
    some ((shownPaths fileUrlPath cacheDir
      (store.representationsOf eventId)).any fun path =>
        !cacheFsExists env store.disk path)

def missingEntries (store : HistoryStore) :
    List String → List ClipboardEntry → List String
  | _, [] => []
  | handled, entry :: rest =>
      if entry.entryId ∈ handled then
        missingEntries store handled rest
      else if entryHasMissingCacheFile fileUrlPath cacheDir env store
          entry.eventId = some true then
        entry.entryId ::
          missingEntries store (entry.entryId :: handled) rest
      else
        missingEntries store (entry.entryId :: handled) rest

/-- `ReconcileMissingFilesUseCase::execute`: all entries are looked at before
any is deleted. -/
def reconcileMissingFiles (store : HistoryStore) :
    DeleteCounts × HistoryStore :=
  if !cacheFsExists env store.disk cacheDir.osPath || env.listEntriesFails then
    (⟨0, 0⟩, store)
  else
    deleteEach fileUrlPath cacheDir env ⟨0, 0⟩ store
      (missingEntries fileUrlPath cacheDir env store [] store.allEntries)

/-- What deletes entries: a request for one of them, or a sweep. -/
inductive Deletion where
  | entry (faults : DeleteFaults) (entryId : String)
  | fileCacheTtl (env : SweepEnv) (retentionHours : Nat)
      (result : CleanupResult)
  | quota (env : SweepEnv) (quotaBytes : Nat)
      (skipPinned baselineWritten : Bool) (counts : DeleteCounts)
  | retention (env : SweepEnv) (policy : RetentionPolicy)
      (hashOrder : HashOrder)
  | missingFiles (env : SweepEnv)

def Deletion.run (store : HistoryStore) : Deletion → HistoryStore
  | .entry faults entryId =>
      (deleteEntry fileUrlPath cacheDir faults entryId store).2
  | .fileCacheTtl env retentionHours result =>
      (runFileCacheTtl fileUrlPath cacheDir env retentionHours result store).2
  | .quota env quotaBytes skipPinned baselineWritten counts =>
      (runQuota fileUrlPath cacheDir env quotaBytes skipPinned baselineWritten
        counts store).2
  | .retention env policy hashOrder =>
      (enforceRetention fileUrlPath cacheDir env policy hashOrder store).2
  | .missingFiles env =>
      (reconcileMissingFiles fileUrlPath cacheDir env store).2

end Sweeps

end OpenClipboard.History
