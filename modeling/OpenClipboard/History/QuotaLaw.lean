import OpenClipboard.History.Sweeps
import OpenClipboard.Library.Transition

/-!
# What the cache quota evicts

A pass of the quota against the entries it manages: those whose payload is on
the disk, from the baseline on, without the favorites that are exempt.
-/

namespace OpenClipboard.History

/-! ## The law of one pass -/

def totalBytes (entries : List DiskBackedEntry) : Nat :=
  (entries.map DiskBackedEntry.diskBytes).sum

/-- So many of the first entries are to go: what is left is within the quota,
or only the newest entry is left, and with fewer it was not. -/
structure ShortestPrefix (quotaBytes : Nat) (order : List DiskBackedEntry)
    (count : Nat) : Prop where
  newestStays : order ≠ [] → count < order.length
  within : totalBytes (order.drop count) ≤ quotaBytes ∨
    count + 1 = order.length
  shortest : ∀ fewer < count, quotaBytes < totalBytes (order.drop fewer)

def managedOldestFirst (env : SweepEnv) (skipPinned : Bool) (baselineMs : Int)
    (store : HistoryStore) : List DiskBackedEntry :=
  let managed := (collectDiskBackedEntries env store).filter fun entry =>
    decide (baselineMs ≤ entry.createdAtMs)
  (if skipPinned then managed.filter fun entry => !entry.isFavorited
    else managed).insertionSort fun left right =>
      left.createdAtMs ≤ right.createdAtMs

section Selection

variable {env : SweepEnv} {quotaBytes : Nat} {skipPinned : Bool}
variable {baselineMs : Int} {store : HistoryStore}

theorem mem_managedOldestFirst {entry : DiskBackedEntry} :
    entry ∈ managedOldestFirst env skipPinned baselineMs store ↔
      entry ∈ collectDiskBackedEntries env store ∧
        baselineMs ≤ entry.createdAtMs ∧
        (skipPinned = true → entry.isFavorited = false) := by
  unfold managedOldestFirst
  rw [List.mem_insertionSort]
  cases skipPinned with
  | false => simp
  | true =>
      simp only [if_true, List.mem_filter, decide_eq_true_eq, and_assoc,
        Bool.not_eq_true', forall_const]

/-- `freed` is what the entries before the list take. -/
theorem evictUntilWithin_eq (freed : Nat) {order : List DiskBackedEntry} :
    ∃ count, ShortestPrefix quotaBytes order count ∧
      evictUntilWithin quotaBytes (freed + totalBytes order) freed order =
        (order.take count).map DiskBackedEntry.entryId := by
  induction order generalizing freed with
  | nil =>
      refine ⟨0, ⟨fun some => absurd rfl some, Or.inl (Nat.zero_le _), ?_⟩, rfl⟩
      intro fewer negative
      omega
  | cons entry rest inductionHypothesis =>
      rw [evictUntilWithin, Nat.add_sub_cancel_left]
      by_cases fits : totalBytes (entry :: rest) ≤ quotaBytes
      · rw [if_pos fits]
        refine ⟨0, ⟨fun _ => Nat.succ_pos _, Or.inl fits, ?_⟩, rfl⟩
        intro fewer negative
        omega
      · rw [if_neg fits]
        by_cases isNewest : rest = []
        · rw [if_pos isNewest, isNewest]
          refine ⟨0, ⟨fun _ => Nat.succ_pos _, Or.inr rfl, ?_⟩, rfl⟩
          intro fewer negative
          omega
        · rw [if_neg isNewest]
          have split : freed + totalBytes (entry :: rest) =
              freed + entry.diskBytes + totalBytes rest := by
            rw [totalBytes, List.map_cons, List.sum_cons, totalBytes]
            omega
          rcases inductionHypothesis (freed + entry.diskBytes) with
            ⟨count, isShortest, evicts⟩
          refine ⟨count + 1, ⟨?_, ?_, ?_⟩, ?_⟩
          · intro _
            exact Nat.succ_lt_succ (isShortest.newestStays isNewest)
          · rcases isShortest.within with within | isLast
            · exact Or.inl within
            · right
              rw [List.length_cons, isLast]
          · intro fewer before
            cases fewer with
            | zero => exact Nat.not_le.mp fits
            | succ fewer =>
                exact isShortest.shortest fewer (Nat.lt_of_succ_lt_succ before)
          · rw [split, evicts, List.take_succ_cons, List.map_cons]

variable (env skipPinned baselineMs store) in
/-- The victims of a pass are the shortest prefix of the managed entries. -/
theorem quotaVictims_eq (enabled : quotaBytes ≠ 0) :
    ∃ count, ShortestPrefix quotaBytes
        (managedOldestFirst env skipPinned baselineMs store) count ∧
      quotaVictims env quotaBytes skipPinned baselineMs store =
        ((managedOldestFirst env skipPinned baselineMs store).take count).map
          DiskBackedEntry.entryId := by
  have selected : ∃ count, ShortestPrefix quotaBytes
      (managedOldestFirst env skipPinned baselineMs store) count ∧
        evictUntilWithin quotaBytes (0 + totalBytes
          (managedOldestFirst env skipPinned baselineMs store)) 0
            (managedOldestFirst env skipPinned baselineMs store) =
          ((managedOldestFirst env skipPinned baselineMs store).take count).map
            DiskBackedEntry.entryId := evictUntilWithin_eq 0
  rcases selected with ⟨count, isShortest, evicts⟩
  refine ⟨count, isShortest, ?_⟩
  rw [Nat.zero_add] at evicts
  rw [← evicts]
  unfold quotaVictims selectEntriesToEvictForQuota
  simp only
  rw [if_neg enabled]
  have sameTotal : totalBytes
      (managedOldestFirst env skipPinned baselineMs store) =
        ((if skipPinned then
            ((collectDiskBackedEntries env store).filter fun entry =>
              decide (baselineMs ≤ entry.createdAtMs)).filter fun entry =>
                !entry.isFavorited
          else
            (collectDiskBackedEntries env store).filter fun entry =>
              decide (baselineMs ≤ entry.createdAtMs)).map
            DiskBackedEntry.diskBytes).sum :=
    ((List.perm_insertionSort _ _).map _).sum_eq
  rw [sameTotal]
  rfl

end Selection

/-! ## What the entries of a pass are -/

variable {backed : DiskBackedEntry} {entryId : String}

section Collected

variable {env : SweepEnv} {quotaBytes : Nat} {skipPinned : Bool}
variable {baselineMs : Int} {store : HistoryStore}

theorem mem_collectDiskBackedEntries :
    backed ∈ collectDiskBackedEntries env store ↔
      ∃ entry ∈ store.entries, env.loadFails entry.eventId = false ∧
        diskBytes (store.representationsOf entry.eventId) ≠ 0 ∧
        backed = ⟨entry.entryId, entry.createdAtMs,
          diskBytes (store.representationsOf entry.eventId),
          entry.isFavorited⟩ := by
  unfold collectDiskBackedEntries
  rw [HistoryStore.allEntries_eq, List.mem_filterMap]
  apply exists_congr
  intro entry
  apply and_congr_right
  intro _
  cases env.loadFails entry.eventId with
  | true => simp
  | false =>
      by_cases isEmpty : diskBytes (store.representationsOf entry.eventId) = 0
      · simp [isEmpty]
      · simp [isEmpty, eq_comm]

theorem filterMap_map_sublist {α β γ : Type} {select : α → Option β}
    {key : α → γ} {selectedKey : β → γ}
    (keeps : ∀ element selected, select element = some selected →
      selectedKey selected = key element) (elements : List α) :
    ((elements.filterMap select).map selectedKey).Sublist
      (elements.map key) := by
  induction elements with
  | nil => exact List.Sublist.slnil
  | cons element rest inductionHypothesis =>
      rw [List.map_cons]
      cases isSelected : select element with
      | none =>
          rw [List.filterMap_cons_none isSelected]
          exact inductionHypothesis.cons _
      | some selected =>
          rw [List.filterMap_cons_some isSelected, List.map_cons,
            keeps element selected isSelected]
          exact inductionHypothesis.cons_cons _

variable (env store) in
theorem collectDiskBackedEntries_distinct :
    ((collectDiskBackedEntries env store).map
      DiskBackedEntry.entryId).Nodup := by
  unfold collectDiskBackedEntries
  rw [HistoryStore.allEntries_eq]
  refine List.Nodup.sublist ?_ store.entryIds
  apply filterMap_map_sublist
  intro entry backed isBacked
  split at isBacked
  · cases isBacked
  · split at isBacked
    · cases isBacked
    · cases isBacked
      rfl

variable (env skipPinned baselineMs store) in
theorem managedOldestFirst_distinct :
    ((managedOldestFirst env skipPinned baselineMs store).map
      DiskBackedEntry.entryId).Nodup := by
  have sorted : ((managedOldestFirst env skipPinned baselineMs store).map
      DiskBackedEntry.entryId).Perm _ :=
    (List.perm_insertionSort _ _).map DiskBackedEntry.entryId
  rw [sorted.nodup_iff]
  refine List.Nodup.sublist ?_ (collectDiskBackedEntries_distinct env store)
  split
  · exact (List.filter_sublist.trans List.filter_sublist).map _
  · exact List.filter_sublist.map _

theorem entry_of_managed {entry : ClipboardEntry}
    (isManaged : backed ∈ managedOldestFirst env skipPinned baselineMs store)
    (member : entry ∈ store.entries) (named : backed.entryId = entry.entryId) :
    baselineMs ≤ entry.createdAtMs ∧
      (skipPinned = true → entry.isFavorited = false) := by
  rcases mem_managedOldestFirst.mp isManaged with ⟨collected, isLate, spared⟩
  rcases mem_collectDiskBackedEntries.mp collected with
    ⟨other, otherMember, _, _, isBacked⟩
  rw [isBacked] at named isLate spared
  have same : other = entry :=
    List.inj_on_of_nodup_map store.entryIds otherMember member named
  rw [same] at isLate spared
  exact ⟨isLate, spared⟩

end Collected

/-! ## What a pass evicts -/

section Passes

variable {fileUrlPath : FileUrlPath} {cacheDir : Location} {env : SweepEnv}
variable {quotaBytes : Nat} {skipPinned written : Bool}
variable {counts : DeleteCounts} {store : HistoryStore}

/-- The newest of the entries that a pass manages; of several that are as new,
the one listed last. -/
def IsNewestManaged (env : SweepEnv) (skipPinned : Bool) (baselineMs : Int)
    (store : HistoryStore) (entryId : String) : Prop :=
  ∃ newest, (managedOldestFirst env skipPinned baselineMs store).getLast? =
    some newest ∧ newest.entryId = entryId

theorem not_newest_of_victim {baselineMs : Int}
    (isVictim : entryId ∈
      quotaVictims env quotaBytes skipPinned baselineMs store)
    (enabled : quotaBytes ≠ 0) :
    ¬ IsNewestManaged env skipPinned baselineMs store entryId := by
  rintro ⟨newest, isLast, named⟩
  have someManaged := List.ne_nil_of_mem (List.mem_of_getLast? isLast)
  have distinct := managedOldestFirst_distinct env skipPinned baselineMs store
  rcases quotaVictims_eq env skipPinned baselineMs store enabled with
    ⟨count, isShortest, evicts⟩
  have stays := isShortest.newestStays someManaged
  rw [evicts] at isVictim
  have inRest : newest ∈ (managedOldestFirst env skipPinned baselineMs
      store).drop count := by
    apply List.mem_of_getLast?
    rw [List.getLast?_drop, if_neg (by omega), isLast]
  rw [← List.take_append_drop count (managedOldestFirst env skipPinned
    baselineMs store), List.map_append, List.nodup_append] at distinct
  exact distinct.2.2 entryId isVictim entryId
    (named ▸ List.mem_map_of_mem inRest) rfl

theorem evicted_of_runQuota {entry : ClipboardEntry}
    (member : entry ∈ store.entries)
    (evicted : entry ∉ (runQuota fileUrlPath cacheDir env quotaBytes skipPinned
      written counts store).2.entries) :
    ∃ baselineMs, store.quotaBaseline = .recorded baselineMs ∧
      baselineMs ≤ entry.createdAtMs ∧
      (skipPinned = true → entry.isFavorited = false) ∧
      ¬ IsNewestManaged env skipPinned baselineMs store entry.entryId := by
  unfold runQuota at evicted
  split at evicted
  · exact absurd member evicted
  · rename_i enabled
    split at evicted
    · exact absurd member evicted
    · split at evicted
      · exact absurd member evicted
      · split at evicted
        · exact absurd member evicted
        · exact absurd member evicted
      · rename_i baselineMs isBaseline
        split at evicted
        · exact absurd member evicted
        · rw [mem_deleteEach_entries] at evicted
          have isVictim : entry.entryId ∈
              quotaVictims env quotaBytes skipPinned baselineMs store := by
            by_contra spared
            exact evicted ⟨member, fun both => spared both.1⟩
          have notNewest := not_newest_of_victim isVictim enabled
          rcases quotaVictims_eq env skipPinned baselineMs store enabled with
            ⟨count, _, evicts⟩
          rw [evicts] at isVictim
          rcases List.mem_map.mp isVictim with ⟨backed, isFirst, named⟩
          rcases entry_of_managed (List.mem_of_mem_take isFirst) member named
            with ⟨isLate, spared⟩
          exact ⟨baselineMs, isBaseline, isLate, spared, notNewest⟩

theorem deleteEntry_quotaBaseline {faults : DeleteFaults} :
    (deleteEntry fileUrlPath cacheDir faults entryId
      store).2.quotaBaseline = store.quotaBaseline := by
  unfold deleteEntry
  split
  · rfl
  · split
    · rfl
    · unfold deleteRows
      split
      · rfl
      · split
        · rfl
        · split <;> rfl

theorem deleteEach_quotaBaseline {entryIds : List String} :
    (deleteEach fileUrlPath cacheDir env counts store
      entryIds).2.quotaBaseline = store.quotaBaseline := by
  rw [deleteEach_snd]
  induction entryIds generalizing store with
  | nil => rfl
  | cons entryId rest inductionHypothesis =>
      rw [List.foldl_cons, inductionHypothesis, deleteEntry_quotaBaseline]

theorem runQuota_baseline {baselineMs : Int}
    (isRecorded : store.quotaBaseline = .recorded baselineMs) :
    (runQuota fileUrlPath cacheDir env quotaBytes skipPinned written counts
      store).2.quotaBaseline = .recorded baselineMs := by
  unfold runQuota
  rw [isRecorded]
  simp only
  split
  · exact isRecorded
  · split
    · exact isRecorded
    · split
      · exact isRecorded
      · rw [deleteEach_quotaBaseline, isRecorded]

theorem runQuota_of_recorded {baselineMs : Int} (enabled : quotaBytes ≠ 0)
    (hasParent : cacheDir ≠ [])
    (isRecorded : store.quotaBaseline = .recorded baselineMs)
    (lists : env.listEntriesFails = false) :
    runQuota fileUrlPath cacheDir env quotaBytes skipPinned written counts
        store =
      deleteEach fileUrlPath cacheDir env counts store
        (quotaVictims env quotaBytes skipPinned baselineMs store) := by
  unfold runQuota
  rw [if_neg enabled, if_neg hasParent, isRecorded]
  simp only [lists, Bool.false_eq_true, if_false]

/-! ## A second pass -/

theorem removesRow_of_deleteEntry {faults : DeleteFaults} {after : HistoryStore}
    (deleted : deleteEntry fileUrlPath cacheDir faults entryId store =
      (.ok (), after)) :
    faults.removesRow = true := by
  unfold deleteEntry at deleted
  split at deleted
  · cases deleted
  · rename_i found
    split at deleted
    · cases deleted
    · unfold deleteRows at deleted
      split at deleted
      · cases deleted
      · rename_i selection
        split at deleted
        · cases deleted
        · rename_i row
          simp [DeleteFaults.removesRow, found, selection, row]

variable (counts store) in
theorem deleteEach_errors {entryIds : List String} :
    counts.errors ≤ (deleteEach fileUrlPath cacheDir env counts store
        entryIds).1.errors ∧
      ((deleteEach fileUrlPath cacheDir env counts store
          entryIds).1.errors = counts.errors →
        ∀ entryId ∈ entryIds, (env.deleteFaults entryId).removesRow = true) := by
  induction entryIds generalizing counts store with
  | nil => exact ⟨le_rfl, fun _ => nofun⟩
  | cons entryId rest inductionHypothesis =>
      rw [deleteEach]
      split
      · rename_i after deleted
        rcases inductionHypothesis { counts with
          entriesDeleted := counts.entriesDeleted + 1 } after with ⟨grows, all⟩
        refine ⟨grows, ?_⟩
        intro none other member
        rcases List.mem_cons.mp member with isHead | inRest
        · rw [isHead]
          exact removesRow_of_deleteEntry deleted
        · exact all none other inRest
      · rename_i after _
        rcases inductionHypothesis { counts with
          errors := counts.errors + 1 } after with ⟨grows, _⟩
        simp only at grows
        exact ⟨by omega, fun none => absurd none (by omega)⟩

theorem deleteEach_shrinks {entryIds : List String} :
    Shrinks store
      (deleteEach fileUrlPath cacheDir env counts store entryIds).2 := by
  rw [deleteEach_snd]
  induction entryIds generalizing store with
  | nil => exact Shrinks.refl store
  | cons entryId rest inductionHypothesis =>
      rw [List.foldl_cons]
      exact deleteEntry_shrinks.trans inductionHypothesis

/-- What a later pass manages in a store that shrank an earlier one did too, if
it could load what the later one can. -/
theorem managed_of_shrinks {again : SweepEnv} {baselineMs : Int}
    {after : HistoryStore} (shrinks : Shrinks store after)
    (loaded : ∀ entry ∈ store.entries, env.loadFails entry.eventId = true →
      again.loadFails entry.eventId = true)
    (isManaged : backed ∈
      managedOldestFirst again skipPinned baselineMs after) :
    backed ∈ managedOldestFirst env skipPinned baselineMs store ∧
      ∃ entry ∈ after.entries, entry.entryId = backed.entryId := by
  rcases mem_managedOldestFirst.mp isManaged with ⟨collected, rest⟩
  rcases mem_collectDiskBackedEntries.mp collected with
    ⟨entry, member, loads, someBytes, isBacked⟩
  have wasThere := shrinks.entries.subset member
  have sameBytes : diskBytes (after.representationsOf entry.eventId) =
      diskBytes (store.representationsOf entry.eventId) := by
    rcases shrinks.representations entry.eventId with same | gone
    · rw [same]
    · rw [gone] at someBytes
      exact absurd rfl someBytes
  have loadedBefore : env.loadFails entry.eventId = false := by
    by_contra fails
    rw [loaded entry wasThere (Bool.eq_true_of_not_eq_false fails)] at loads
    cases loads
  rw [sameBytes] at someBytes isBacked
  refine ⟨mem_managedOldestFirst.mpr ⟨?_, rest⟩, entry, member, ?_⟩
  · exact mem_collectDiskBackedEntries.mpr
      ⟨entry, wasThere, loadedBefore, someBytes, isBacked⟩
  · rw [isBacked]

theorem quotaVictims_after {again : SweepEnv} {baselineMs : Int}
    (enabled : quotaBytes ≠ 0)
    (succeeded : (deleteEach fileUrlPath cacheDir env counts store
      (quotaVictims env quotaBytes skipPinned baselineMs store)).1.errors =
        counts.errors)
    (loaded : ∀ entry ∈ store.entries, env.loadFails entry.eventId = true →
      again.loadFails entry.eventId = true) :
    quotaVictims again quotaBytes skipPinned baselineMs
      (deleteEach fileUrlPath cacheDir env counts store
        (quotaVictims env quotaBytes skipPinned baselineMs store)).2 = [] := by
  have removed := (deleteEach_errors counts store).2 succeeded
  have shrinks : Shrinks store (deleteEach fileUrlPath cacheDir env counts
      store (quotaVictims env quotaBytes skipPinned baselineMs store)).2 :=
    deleteEach_shrinks
  have stored : ∀ entry ∈ (deleteEach fileUrlPath cacheDir env counts store
      (quotaVictims env quotaBytes skipPinned baselineMs store)).2.entries,
      entry.entryId ∉
        quotaVictims env quotaBytes skipPinned baselineMs store := by
    intro entry member isVictim
    exact (mem_deleteEach_entries.mp member).2
      ⟨isVictim, removed _ isVictim⟩
  generalize (deleteEach fileUrlPath cacheDir env counts store
    (quotaVictims env quotaBytes skipPinned baselineMs store)).2 = after
      at shrinks stored
  rcases quotaVictims_eq env skipPinned baselineMs store enabled with
    ⟨count, isShortest, evicts⟩
  rcases quotaVictims_eq again skipPinned baselineMs after enabled with
    ⟨later, isLaterShortest, evictsLater⟩
  have leftOver : managedOldestFirst again skipPinned baselineMs after ⊆
      (managedOldestFirst env skipPinned baselineMs store).drop count := by
    intro backed isManaged
    rcases managed_of_shrinks shrinks loaded isManaged with
      ⟨wasManaged, entry, member, named⟩
    rw [← List.take_append_drop count (managedOldestFirst env skipPinned
      baselineMs store)] at wasManaged
    rcases List.mem_append.mp wasManaged with isFirst | inRest
    · have isVictim : entry.entryId ∈
          quotaVictims env quotaBytes skipPinned baselineMs store := by
        rw [evicts, named]
        exact List.mem_map_of_mem isFirst
      exact absurd isVictim (stored entry member)
    · exact inRest
  have distinct := List.Nodup.of_map _
    (managedOldestFirst_distinct again skipPinned baselineMs after)
  have fewer := List.subperm_of_subset distinct leftOver
  have noLater : later = 0 := by
    by_contra some
    have above := isLaterShortest.shortest 0 (Nat.pos_of_ne_zero some)
    rw [List.drop_zero] at above
    have someLater : managedOldestFirst again skipPinned baselineMs after ≠
        [] := by
      intro isEmpty
      rw [isEmpty] at above
      exact Nat.not_lt_zero _ above
    have stays := isLaterShortest.newestStays someLater
    have lengths := fewer.length_le
    rw [List.length_drop] at lengths
    rcases isShortest.within with within | isLast
    · rcases fewer with ⟨same, isPerm, isSublist⟩
      have sameTotal : totalBytes same = totalBytes
          (managedOldestFirst again skipPinned baselineMs after) :=
        (isPerm.map _).sum_eq
      have lessTotal : totalBytes same ≤ totalBytes
          ((managedOldestFirst env skipPinned baselineMs store).drop count) :=
        (isSublist.map _).sum_le_sum fun _ _ => Nat.zero_le _
      omega
    · omega
  rw [evictsLater, noLater]
  rfl

end Passes

/-! ## Sequences of passes -/

/-- A pass, a write of the marker that fails and leaves something unreadable, or
whatever else happens to the history and leaves the marker alone. -/
inductive QuotaAction where
  | pass (env : SweepEnv) (quotaBytes : Nat) (skipPinned written : Bool)
      (counts : DeleteCounts)
  | spoilMarker
  | other (next : HistoryStore)

section Runs

variable (fileUrlPath : FileUrlPath) (cacheDir : Location)

def quotaStep (store : HistoryStore) : QuotaAction → Option HistoryStore
  | .pass env quotaBytes skipPinned written counts =>
      some (runQuota fileUrlPath cacheDir env quotaBytes skipPinned written
        counts store).2
  | .spoilMarker =>
      if store.quotaBaseline = .absent then
        some { store with quotaBaseline := .unreadable }
      else
        none
  | .other next =>
      if next.quotaBaseline = store.quotaBaseline then some next else none

variable {fileUrlPath cacheDir}

theorem baseline_of_run {start store : HistoryStore} {baselineMs : Int}
    (run : Transition.Run (quotaStep fileUrlPath cacheDir) Transition.anyAction
      start store)
    (isRecorded : start.quotaBaseline = .recorded baselineMs) :
    store.quotaBaseline = .recorded baselineMs := by
  induction run with
  | refl => exact isRecorded
  | tail action _ _ stepped inductionHypothesis =>
      cases action with
      | pass env quotaBytes skipPinned written counts =>
          cases stepped
          exact runQuota_baseline inductionHypothesis
      | spoilMarker =>
          simp only [quotaStep, inductionHypothesis, reduceCtorEq,
            if_false] at stepped
      | other next =>
          simp only [quotaStep] at stepped
          split at stepped
          · rename_i same
            cases stepped
            rw [same, inductionHypothesis]
          · cases stepped

variable (fileUrlPath cacheDir)

/-- A pass takes the shortest prefix of what it manages, unless the quota is
zero and so disabled.  In a sequence of passes none takes what is from before
the baseline that was recorded, or the newest that it manages.  A second pass
after one that succeeded takes nothing. -/
theorem quota_law :
    (∀ env skipPinned baselineMs store,
      quotaVictims env 0 skipPinned baselineMs store = [] ∧
        ∀ quotaBytes, quotaBytes ≠ 0 → ∃ count,
          ShortestPrefix quotaBytes
              (managedOldestFirst env skipPinned baselineMs store) count ∧
            quotaVictims env quotaBytes skipPinned baselineMs store =
              ((managedOldestFirst env skipPinned baselineMs store).take
                count).map DiskBackedEntry.entryId) ∧
      (∀ start store, Transition.Run (quotaStep fileUrlPath cacheDir)
          Transition.anyAction start store →
        ∀ env quotaBytes skipPinned written counts, ∀ entry ∈ store.entries,
          entry ∉ (runQuota fileUrlPath cacheDir env quotaBytes skipPinned
              written counts store).2.entries →
            ∃ baselineMs, store.quotaBaseline = .recorded baselineMs ∧
              (∀ earlierMs, start.quotaBaseline = .recorded earlierMs →
                earlierMs = baselineMs) ∧
              baselineMs ≤ entry.createdAtMs ∧
              (skipPinned = true → entry.isFavorited = false) ∧
              ¬ IsNewestManaged env skipPinned baselineMs store
                entry.entryId) ∧
      ∀ env again quotaBytes skipPinned written writtenAgain counts
          countsAgain store baselineMs, quotaBytes ≠ 0 → cacheDir ≠ [] →
        store.quotaBaseline = .recorded baselineMs →
        env.listEntriesFails = false →
        (runQuota fileUrlPath cacheDir env quotaBytes skipPinned written counts
          store).1.errors = counts.errors →
        (∀ entry ∈ store.entries, env.loadFails entry.eventId = true →
          again.loadFails entry.eventId = true) →
          (runQuota fileUrlPath cacheDir again quotaBytes skipPinned
            writtenAgain countsAgain (runQuota fileUrlPath cacheDir env
              quotaBytes skipPinned written counts store).2).2 =
            (runQuota fileUrlPath cacheDir env quotaBytes skipPinned written
              counts store).2 := by
  refine ⟨?_, ?_, ?_⟩
  · intro env skipPinned baselineMs store
    refine ⟨?_, ?_⟩
    · unfold quotaVictims selectEntriesToEvictForQuota
      exact if_pos rfl
    · intro quotaBytes enabled
      exact quotaVictims_eq env skipPinned baselineMs store enabled
  · intro start store run env quotaBytes skipPinned written counts entry member
      evicted
    rcases evicted_of_runQuota member evicted with
      ⟨baselineMs, isRecorded, isLate, spared, notNewest⟩
    refine ⟨baselineMs, isRecorded, ?_, isLate, spared, notNewest⟩
    intro earlierMs wasRecorded
    rw [baseline_of_run run wasRecorded] at isRecorded
    cases isRecorded
    rfl
  · intro env again quotaBytes skipPinned written writtenAgain counts
      countsAgain store baselineMs enabled hasParent isRecorded lists succeeded
      loaded
    rw [runQuota_of_recorded enabled hasParent isRecorded lists] at succeeded ⊢
    have stillRecorded : (deleteEach fileUrlPath cacheDir env counts store
        (quotaVictims env quotaBytes skipPinned baselineMs
          store)).2.quotaBaseline = .recorded baselineMs := by
      rw [deleteEach_quotaBaseline, isRecorded]
    by_cases listsAgain : again.listEntriesFails = false
    · rw [runQuota_of_recorded enabled hasParent stillRecorded listsAgain,
        quotaVictims_after enabled succeeded loaded]
      rfl
    · unfold runQuota
      rw [if_neg enabled, if_neg hasParent, stillRecorded]
      simp only [Bool.eq_true_of_not_eq_false listsAgain, if_true]

end Runs

/-! ## Two pictures -/

namespace QuotaSample

def noNodes : Table Location FsNode := ∅

theorem noParents (location : Location) (name : Name) (node : FsNode)
    (found : noNodes.find (location ++ [name]) = some node) :
    location = [] ∨ noNodes.find location = some .directory := by
  cases found

def older : ClipboardEntry := ⟨"older", "event-1", 10, false⟩

def newer : ClipboardEntry := ⟨"newer", "event-2", 20, false⟩

theorem entryIds :
    ([newer, older].map ClipboardEntry.entryId).Nodup := by
  decide

def picture (id : String) : StoredRepresentation :=
  .ofCapture 0 id ⟨"png"⟩ (some ⟨"image/png"⟩) [1, 2, 3]

def store : HistoryStore where
  entries := [newer, older]
  events := [⟨"event-1", "hash-1"⟩, ⟨"event-2", "hash-2"⟩]
  representations :=
    ((∅ : Table String (List StoredRepresentation)).put "event-1"
      [picture "first"]).put "event-2" [picture "second"]
  selections := ["older", "newer"]
  searchIndex := []
  blobTags := []
  quotaBaseline := .recorded 5
  disk := ⟨noNodes, noParents⟩
  entryIds := entryIds

end QuotaSample

open QuotaSample

theorem pictures_managed :
    managedOldestFirst (.working 30) true 5 store =
      [⟨"older", 10, 3, false⟩, ⟨"newer", 20, 3, false⟩] := by
  decide

theorem pictures_evicts (name : Name) :
    runQuota (fun _ => none) [name] (.working 30) 4 true true ⟨0, 0⟩ store =
      deleteEach (fun _ => none) [name] (.working 30) ⟨0, 0⟩ store
        ["older"] := by
  have victims : quotaVictims (.working 30) 4 true 5 store = ["older"] := by
    decide
  rw [runQuota_of_recorded (by decide) (List.cons_ne_nil _ _) rfl rfl, victims]

/-- The older of the two pictures goes, and then nothing. -/
theorem pictures_quota :
    (∀ name, older ∉ (runQuota (fun _ => none) [name] (.working 30) 4 true true
        ⟨0, 0⟩ store).2.entries) ∧
      ∀ name, (runQuota (fun _ => none) [name] (.working 40) 4 true true ⟨0, 0⟩
          (runQuota (fun _ => none) [name] (.working 30) 4 true true ⟨0, 0⟩
            store).2).2 =
        (runQuota (fun _ => none) [name] (.working 30) 4 true true ⟨0, 0⟩
          store).2 := by
  constructor
  · intro name
    rw [pictures_evicts, mem_deleteEach_entries]
    exact fun kept => kept.2 ⟨List.mem_singleton.mpr rfl, rfl⟩
  · intro name
    apply (quota_law (fun _ => none) [name]).2.2 (.working 30) (.working 40) 4
      true true true ⟨0, 0⟩ ⟨0, 0⟩ store 5 (by decide) (List.cons_ne_nil _ _)
      rfl rfl
    · rw [pictures_evicts]
      rfl
    · exact fun _ _ => nofun

/-- With a quota of zero the older one would have to go. -/
theorem zeroQuota_keeps :
    ¬ ∃ count, ShortestPrefix 0
        (managedOldestFirst (.working 30) true 5 store) count ∧
      quotaVictims (.working 30) 0 true 5 store =
        ((managedOldestFirst (.working 30) true 5 store).take count).map
          DiskBackedEntry.entryId := by
  rintro ⟨count, isShortest, evicts⟩
  rw [pictures_managed] at isShortest evicts
  have none : quotaVictims (.working 30) 0 true 5 store = [] := by
    unfold quotaVictims selectEntriesToEvictForQuota
    exact if_pos rfl
  rw [none] at evicts
  have isZero : count = 0 := by
    by_contra some
    rcases Nat.exists_eq_succ_of_ne_zero some with ⟨fewer, isSucc⟩
    rw [isSucc] at evicts
    cases evicts
  rw [isZero] at isShortest
  rcases isShortest.within with within | isLast
  · exact absurd within (by decide)
  · exact absurd isLast (by decide)

end OpenClipboard.History
