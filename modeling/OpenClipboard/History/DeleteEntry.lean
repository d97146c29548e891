import OpenClipboard.History.UriList

/-!
# Deletion of an entry

The rows of the history and the steps that remove an entry: its blob tag, its
cached files, its search document, and then its rows in three writes.
-/

namespace OpenClipboard.History

/-- A row of `clipboard_entry`. -/
structure ClipboardEntry where
  entryId : String
  eventId : String
  createdAtMs : Int
  isFavorited : Bool
  deriving DecidableEq, Repr

/-- A row of `clipboard_event`. -/
structure EventRow where
  eventId : String
  snapshotHash : String
  deriving DecidableEq, Repr

inductive QuotaBaseline where
  | absent
  | unreadable
  | recorded (unixMs : Int)
  deriving DecidableEq, Repr

/-- The entries in the order they are listed in, the events in the order they
are found in, and what else belongs to them. -/
structure HistoryStore where
  entries : List ClipboardEntry
  events : List EventRow
  representations : Table String (List StoredRepresentation)
  selections : List String
  searchIndex : List String
  blobTags : List String
  quotaBaseline : QuotaBaseline
  disk : Disk
  entryIds : (entries.map ClipboardEntry.entryId).Nodup

structure DeleteFaults where
  getEntry : Option String
  untag : Bool
  loadRepresentations : Bool
  removeFile : OsPath → Bool
  removeDir : PathBuf → Bool
  searchIndex : Bool
  selection : Option String
  entryRow : Option String
  eventRow : Option String

def DeleteFaults.removesRow (faults : DeleteFaults) : Bool :=
  faults.getEntry.isNone && faults.selection.isNone && faults.entryRow.isNone

def DeleteFaults.none : DeleteFaults where
  getEntry := Option.none
  untag := false
  loadRepresentations := false
  removeFile _ := false
  removeDir _ := false
  searchIndex := false
  selection := Option.none
  entryRow := Option.none
  eventRow := Option.none

namespace HistoryStore

def getEntry (store : HistoryStore) (entryId : String) :
    Option ClipboardEntry :=
  store.entries.find? fun entry => decide (entry.entryId = entryId)

def representationsOf (store : HistoryStore) (eventId : String) :
    List StoredRepresentation :=
  (store.representations.find eventId).getD []

def deleteSelection (store : HistoryStore) (entryId : String) : HistoryStore :=
  { store with
    selections := store.selections.filter fun other =>
      decide (other ≠ entryId) }

def deleteEntryRow (store : HistoryStore) (entryId : String) : HistoryStore :=
  { store with
    entries := store.entries.filter fun entry =>
      decide (entry.entryId ≠ entryId)
    entryIds := store.entryIds.sublist (List.filter_sublist.map _) }

def deleteEventAndRepresentations (store : HistoryStore) (eventId : String) :
    HistoryStore :=
  { store with
    events := store.events.filter fun event => decide (event.eventId ≠ eventId)
    representations := store.representations.remove eventId }

end HistoryStore

section Deletion

variable (fileUrlPath : FileUrlPath) (cacheDir : Location)
variable (faults : DeleteFaults)

def removeCacheFile (disk : Disk) (path : OsPath) : Disk :=
  match if faults.removeFile path then none else disk.removeFile path with
  | none => disk
  | some after =>
      match path.path.parent with
      | none => after
      | some parent =>
          if parent ≠ cacheDir.path ∧ parent.startsWith cacheDir.path = true ∧
              faults.removeDir parent = false then
            (after.removeDir parent).getD after
          else
            after

def removeCacheFiles (disk : Disk) (paths : List OsPath) : Disk :=
  paths.foldl (removeCacheFile cacheDir faults) disk

/-- The disk after the cached files of an entry were removed.  Where its
representations cannot be loaded, they stay. -/
def cleanUpCacheFiles (entry : ClipboardEntry) (store : HistoryStore) : Disk :=
  if faults.loadRepresentations then
    store.disk
  else
    removeCacheFiles cacheDir faults store.disk
      (shownPaths fileUrlPath cacheDir (store.representationsOf entry.eventId))

/-- What is removed beside the rows; no failure of it stops the deletion. -/
def releaseEntry (entry : ClipboardEntry) (store : HistoryStore) :
    HistoryStore :=
  { store with
    blobTags :=
      if faults.untag then store.blobTags
      else store.blobTags.filter fun tag => decide (tag ≠ entry.entryId)
    disk := cleanUpCacheFiles fileUrlPath cacheDir faults entry store
    searchIndex :=
      if faults.searchIndex then store.searchIndex
      else store.searchIndex.filter fun document =>
        decide (document ≠ entry.entryId) }

/-- The three writes, up to the first that fails. -/
def deleteRows (entry : ClipboardEntry) (store : HistoryStore) :
    Except String Unit × HistoryStore :=
  match faults.selection with
  | some error => (.error s!"Failed to delete selection: {error}", store)
  | none =>
      match faults.entryRow with
      | some error =>
          (.error s!"Failed to delete entry: {error}",
            store.deleteSelection entry.entryId)
      | none =>
          match faults.eventRow with
          | some error =>
              (.error s!"Failed to delete event: {error}",
                (store.deleteSelection entry.entryId).deleteEntryRow
                  entry.entryId)
          | none =>
              (.ok (),
                ((store.deleteSelection entry.entryId).deleteEntryRow
                  entry.entryId).deleteEventAndRepresentations entry.eventId)

/-- `DeleteClipboardEntryUseCase::execute`. -/
def deleteEntry (entryId : String) (store : HistoryStore) :
    Except String Unit × HistoryStore :=
  match faults.getEntry with
  | some error => (.error error, store)
  | none =>
      match store.getEntry entryId with
      | none => (.error s!"Clipboard entry not found: {entryId}", store)
      | some entry =>
          deleteRows faults entry
            (releaseEntry fileUrlPath cacheDir faults entry store)

end Deletion

/-! ## What a deletion does -/

section Deletion

variable {fileUrlPath : FileUrlPath} {cacheDir : Location}
variable {faults : DeleteFaults} {store : HistoryStore} {entryId : String}

theorem HistoryStore.getEntry_eq_some {entry : ClipboardEntry}
    (found : store.getEntry entryId = some entry) :
    entry ∈ store.entries ∧ entry.entryId = entryId := by
  unfold HistoryStore.getEntry at found
  have named := List.find?_some found
  exact ⟨List.mem_of_find?_eq_some found, of_decide_eq_true named⟩

theorem HistoryStore.getEntry_of_mem {entry : ClipboardEntry}
    (member : entry ∈ store.entries) :
    store.getEntry entry.entryId = some entry := by
  cases found : store.getEntry entry.entryId with
  | none =>
      have absent := List.find?_eq_none.mp found entry member
      exact absurd (decide_eq_true rfl) absent
  | some other =>
      obtain ⟨isThere, sameId⟩ := HistoryStore.getEntry_eq_some found
      rw [List.inj_on_of_nodup_map store.entryIds isThere member sameId]

theorem deleteRows_disk {entry : ClipboardEntry} :
    (deleteRows faults entry store).2.disk = store.disk := by
  unfold deleteRows
  split
  · rfl
  · split
    · rfl
    · split <;> rfl

theorem deleteEntry_disk :
    (deleteEntry fileUrlPath cacheDir faults entryId store).2.disk =
      match faults.getEntry, store.getEntry entryId with
      | none, some entry =>
          cleanUpCacheFiles fileUrlPath cacheDir faults entry store
      | _, _ => store.disk := by
  unfold deleteEntry
  cases faults.getEntry with
  | some error => rfl
  | none =>
      cases store.getEntry entryId with
      | none => rfl
      | some entry => exact deleteRows_disk

theorem deleteEntry_entries :
    (deleteEntry fileUrlPath cacheDir faults entryId store).2.entries =
      if faults.removesRow then
        store.entries.filter fun entry => decide (entry.entryId ≠ entryId)
      else
        store.entries := by
  unfold deleteEntry DeleteFaults.removesRow
  cases faults.getEntry with
  | some error => rfl
  | none =>
      cases found : store.getEntry entryId with
      | none =>
          have absent : ∀ entry ∈ store.entries,
              decide (entry.entryId ≠ entryId) = true := by
            intro entry member
            have differs := List.find?_eq_none.mp found entry member
            simpa using differs
          rw [List.filter_eq_self.mpr absent, ite_self]
      | some entry =>
          have named := (HistoryStore.getEntry_eq_some found).2
          unfold deleteRows
          simp only
          cases faults.selection with
          | some error => rfl
          | none =>
              cases faults.entryRow with
              | some error => rfl
              | none =>
                  rw [← named]
                  cases faults.eventRow <;> rfl

/-- Entries and representations are only removed. -/
structure Shrinks (before after : HistoryStore) : Prop where
  entries : after.entries.Sublist before.entries
  representations : ∀ eventId,
    after.representationsOf eventId = before.representationsOf eventId ∨
      after.representationsOf eventId = []

theorem Shrinks.refl (store : HistoryStore) : Shrinks store store :=
  ⟨List.Sublist.refl _, fun _ => Or.inl rfl⟩

theorem Shrinks.trans {before middle after : HistoryStore}
    (first : Shrinks before middle) (second : Shrinks middle after) :
    Shrinks before after := by
  refine ⟨second.entries.trans first.entries, ?_⟩
  intro eventId
  rcases second.representations eventId with same | gone
  · rw [same]
    exact first.representations eventId
  · exact Or.inr gone

theorem HistoryStore.representationsOf_deleteEvent {eventId other : String} :
    (store.deleteEventAndRepresentations eventId).representationsOf other =
      if other = eventId then [] else store.representationsOf other := by
  unfold HistoryStore.representationsOf
  have removed : (store.deleteEventAndRepresentations
      eventId).representations.find other =
        (store.representations.remove eventId).find other := rfl
  rw [removed, Table.find_remove]
  by_cases same : other = eventId
  · rw [if_pos same, if_pos same]
    rfl
  · rw [if_neg same, if_neg same]

theorem deleteEvent_shrinks (eventId : String) :
    Shrinks store (store.deleteEventAndRepresentations eventId) := by
  refine ⟨List.Sublist.refl _, ?_⟩
  intro other
  rw [HistoryStore.representationsOf_deleteEvent]
  by_cases same : other = eventId
  · exact Or.inr (if_pos same)
  · exact Or.inl (if_neg same)

theorem deleteRows_shrinks {entry : ClipboardEntry} :
    Shrinks store (deleteRows faults entry store).2 := by
  unfold deleteRows
  split
  · exact Shrinks.refl store
  · split
    · exact ⟨List.Sublist.refl _, fun _ => Or.inl rfl⟩
    · have rows : Shrinks store ((store.deleteSelection
          entry.entryId).deleteEntryRow entry.entryId) :=
        ⟨List.filter_sublist, fun _ => Or.inl rfl⟩
      split
      · exact rows
      · exact rows.trans (deleteEvent_shrinks entry.eventId)

theorem deleteEntry_shrinks :
    Shrinks store
      (deleteEntry fileUrlPath cacheDir faults entryId store).2 := by
  unfold deleteEntry
  split
  · exact Shrinks.refl store
  · split
    · exact Shrinks.refl store
    · rename_i entry _
      have released : Shrinks store
          (releaseEntry fileUrlPath cacheDir faults entry store) :=
        ⟨List.Sublist.refl _, fun _ => Or.inl rfl⟩
      exact released.trans deleteRows_shrinks

end Deletion

end OpenClipboard.History
