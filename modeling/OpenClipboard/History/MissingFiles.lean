import OpenClipboard.History.Sweeps

/-!
# Entries whose files are gone

The reconciliation looks for the files of the lists as they are stored.  Where
the stored list is a preview, its last line can be the beginning of a path, and
no file is there.
-/

namespace OpenClipboard.History

/-! ## What a preview shows -/

theorem lines_of_pieces {chars last : List Char} {pieces : List (List Char)}
    (isSplit : chars.splitOn '\n' = pieces ++ [last]) :
    Text.lines (String.ofList chars) =
      (pieces.map Text.stripCarriageReturn ++
        if last = [] then [] else [last]).map String.ofList := by
  unfold Text.lines
  simp only [String.toList_ofList, isSplit, List.dropLast_concat,
    List.getLast?_concat]
  cases last with
  | nil => rfl
  | cons first others => rfl

theorem truncateToPreview_asBytes (list : String) :
    truncateToPreview (Text.asBytes list) =
      Text.asBytes (String.ofList (list.toList.take previewLengthChars)) := by
  unfold truncateToPreview
  rw [Text.fromUtf8_asBytes]

theorem truncateToPreview_ofList (chars : List Char) :
    truncateToPreview (Text.asBytes (String.ofList chars)) =
      Text.asBytes (String.ofList (chars.take previewLengthChars)) := by
  rw [truncateToPreview_asBytes, String.toList_ofList]

theorem extractCachePaths_asBytes {fileUrlPath : FileUrlPath}
    {cacheDir : Location} (list : String) :
    extractCachePaths fileUrlPath cacheDir (Text.asBytes list) =
      (((Text.lines list).map Text.trim).filterMap
        (linePath fileUrlPath)).filter (isCachePath cacheDir) := by
  unfold extractCachePaths
  rw [toStringLossy_of_fromUtf8 (Text.fromUtf8_asBytes list)]

/-! ## The reconciliation -/

section Reconciliation

variable {fileUrlPath : FileUrlPath} {cacheDir : Location} {env : SweepEnv}
variable {store : HistoryStore} {entry : ClipboardEntry}

theorem mem_missingEntries_iff {handled : List String}
    {entries : List ClipboardEntry} {entryId : String}
    (distinct : (entries.map ClipboardEntry.entryId).Nodup) :
    entryId ∈ missingEntries fileUrlPath cacheDir env store handled entries ↔
      entryId ∉ handled ∧ ∃ entry ∈ entries, entry.entryId = entryId ∧
        entryHasMissingCacheFile fileUrlPath cacheDir env store
          entry.eventId = some true := by
  induction entries generalizing handled with
  | nil => simp [missingEntries]
  | cons head tail inductionHypothesis =>
      rw [List.map_cons, List.nodup_cons] at distinct
      have later : ∀ {handled : List String},
          entryId ∈ missingEntries fileUrlPath cacheDir env store handled
            tail ↔ entryId ∉ handled ∧ ∃ entry ∈ tail,
              entry.entryId = entryId ∧ entryHasMissingCacheFile fileUrlPath
                cacheDir env store entry.eventId = some true :=
        inductionHypothesis distinct.2
      have notHead : ∀ entry ∈ tail, entry.entryId ≠ head.entryId := by
        intro entry member same
        exact distinct.1 (same ▸ List.mem_map_of_mem member)
      rw [missingEntries]
      by_cases isHandled : head.entryId ∈ handled
      · rw [if_pos isHandled, later]
        constructor
        · rintro ⟨fresh, entry, member, isMissing⟩
          exact ⟨fresh, entry, List.mem_cons_of_mem head member, isMissing⟩
        · rintro ⟨fresh, entry, member, named, isMissing⟩
          rcases List.mem_cons.mp member with isHead | inTail
          · rw [isHead] at named
            exact absurd (named ▸ isHandled) fresh
          · exact ⟨fresh, entry, inTail, named, isMissing⟩
      · rw [if_neg isHandled]
        by_cases isMissing : entryHasMissingCacheFile fileUrlPath cacheDir env
            store head.eventId = some true
        · rw [if_pos isMissing, List.mem_cons, later]
          constructor
          · rintro (isHead | ⟨fresh, entry, member, rest⟩)
            · rw [isHead]
              exact ⟨isHandled, head, List.mem_cons_self, rfl, isMissing⟩
            · rw [List.mem_cons, not_or] at fresh
              exact ⟨fresh.2, entry, List.mem_cons_of_mem head member, rest⟩
          · rintro ⟨fresh, entry, member, named, rest⟩
            rcases List.mem_cons.mp member with isHead | inTail
            · left
              rw [← named, isHead]
            · right
              refine ⟨?_, entry, inTail, named, rest⟩
              rw [List.mem_cons, not_or]
              exact ⟨named ▸ notHead entry inTail, fresh⟩
        · rw [if_neg isMissing, later]
          constructor
          · rintro ⟨fresh, entry, member, rest⟩
            rw [List.mem_cons, not_or] at fresh
            exact ⟨fresh.2, entry, List.mem_cons_of_mem head member, rest⟩
          · rintro ⟨fresh, entry, member, named, rest⟩
            rcases List.mem_cons.mp member with isHead | inTail
            · rw [isHead] at rest
              exact absurd rest isMissing
            · refine ⟨?_, entry, inTail, named, rest⟩
              rw [List.mem_cons, not_or]
              exact ⟨named ▸ notHead entry inTail, fresh⟩

/-- The reconciliation looks at the entry, and nothing stops it from deleting
it. -/
def Reconcilable (cacheDir : Location) (env : SweepEnv) (store : HistoryStore)
    (entry : ClipboardEntry) : Prop :=
  cacheFsExists env store.disk cacheDir.osPath = true ∧
    env.listEntriesFails = false ∧ env.loadFails entry.eventId = false ∧
      (env.deleteFaults entry.entryId).removesRow = true

theorem reconcile_deletes_iff (member : entry ∈ store.entries) :
    entry ∉ (reconcileMissingFiles fileUrlPath cacheDir env store).2.entries ↔
      Reconcilable cacheDir env store entry ∧
        ∃ path ∈ shownPaths fileUrlPath cacheDir
          (store.representationsOf entry.eventId),
          cacheFsExists env store.disk path = false := by
  have looksMissing : entry.entryId ∈ missingEntries fileUrlPath cacheDir env
      store [] store.allEntries ↔ env.loadFails entry.eventId = false ∧
        ∃ path ∈ shownPaths fileUrlPath cacheDir
          (store.representationsOf entry.eventId),
          cacheFsExists env store.disk path = false := by
    rw [store.allEntries_eq, mem_missingEntries_iff store.entryIds]
    have one : (∃ other ∈ store.entries, other.entryId = entry.entryId ∧
        entryHasMissingCacheFile fileUrlPath cacheDir env store
          other.eventId = some true) ↔
        entryHasMissingCacheFile fileUrlPath cacheDir env store
          entry.eventId = some true := by
      constructor
      · rintro ⟨other, isThere, named, isMissing⟩
        rw [List.inj_on_of_nodup_map store.entryIds isThere member named]
          at isMissing
        exact isMissing
      · intro isMissing
        exact ⟨entry, member, rfl, isMissing⟩
    rw [one]
    unfold entryHasMissingCacheFile
    cases env.loadFails entry.eventId <;> simp
  unfold reconcileMissingFiles Reconcilable
  cases dirExists : cacheFsExists env store.disk cacheDir.osPath with
  | false => simp [member]
  | true =>
      cases lists : env.listEntriesFails with
      | true => simp [member]
      | false =>
          rw [if_neg (by decide), mem_deleteEach_entries, looksMissing,
            and_iff_right member, not_not]
          constructor
          · rintro ⟨⟨loads, isMissing⟩, removes⟩
            exact ⟨⟨rfl, rfl, loads, removes⟩, isMissing⟩
          · rintro ⟨⟨_, _, loads, removes⟩, isMissing⟩
            exact ⟨⟨loads, isMissing⟩, removes⟩

end Reconciliation

namespace CutList

def cacheName : Name :=
  ((Component.ofBytes [0x63]).bind Name.ofComponent).get (by decide)

def noteName : Name :=
  ⟨⟨[0x6E, 0x6E, 0x6E, 0x6E], by decide, by decide, by decide⟩, by decide,
    by decide⟩

/-- The cache `/c` with the file `/c/nnnn`. -/
def disk : Disk where
  nodes := ((∅ : Table Location FsNode).put [cacheName, noteName]
    (.file 3 none)).put [cacheName] .directory
  parents := by
    intro location name node found
    rw [Table.find_put, Table.find_put, Table.find_empty] at found
    by_cases isCache : location ++ [name] = [cacheName]
    · left
      simpa using congrArg List.length isCache
    · rw [if_neg isCache] at found
      by_cases isNote : location ++ [name] = [cacheName, noteName]
      · right
        have isParent : location = [cacheName] :=
          List.append_inj_left' isNote rfl
        rw [isParent, Table.find_put_self]
      · rw [if_neg isNote] at found
        cases found

/-- The file once a line, in 504 characters. -/
def lineBreaks : List Char :=
  (List.replicate 63 ['/', 'c', '/', 'n', 'n', 'n', 'n', '\n']).flatten

def list : String := String.ofList lineBreaks

def preview : String := String.ofList (lineBreaks.take previewLengthChars)

def files : StoredRepresentation where
  rep := {
    id := "files"
    formatId := ⟨"files"⟩
    mimeType := some ⟨"text/uri-list"⟩
    sizeBytes := 504
    inlineData := some (truncateToPreview (Text.asBytes list))
    blobId := none
    payloadState := .staged
    lastError := none }
  captured := Text.asBytes list
  keeps := Or.inr rfl

def entry : ClipboardEntry := ⟨"entry", "event", 0, false⟩

def store : HistoryStore where
  entries := [entry]
  events := [⟨"event", "hash"⟩]
  representations := (∅ : Table String (List StoredRepresentation)).put "event"
    [files]
  selections := ["entry"]
  searchIndex := []
  blobTags := []
  quotaBaseline := .absent
  disk := disk
  entryIds := by decide

def noUrls : FileUrlPath := fun _ => none

theorem representationsOf_entry :
    store.representationsOf entry.eventId = [files] := by
  unfold HistoryStore.representationsOf store entry
  rw [Table.find_put_self]
  rfl

theorem lines_list : Text.lines list = List.replicate 63 "/c/nnnn" := by
  have pieces : lineBreaks.splitOn '\n' =
      List.replicate 63 ['/', 'c', '/', 'n', 'n', 'n', 'n'] ++ [[]] := by
    decide +kernel
  have line : String.ofList (Text.stripCarriageReturn
      ['/', 'c', '/', 'n', 'n', 'n', 'n']) = "/c/nnnn" := by
    decide
  apply (lines_of_pieces pieces).trans
  rw [if_pos rfl, List.append_nil, List.map_replicate, List.map_replicate,
    line]

theorem cut_mem_lines : "/c/n" ∈ Text.lines preview := by
  have pieces : (lineBreaks.take previewLengthChars).splitOn '\n' =
      List.replicate 62 ['/', 'c', '/', 'n', 'n', 'n', 'n'] ++
        [['/', 'c', '/', 'n']] := by
    decide +kernel
  have line : String.ofList ['/', 'c', '/', 'n'] = "/c/n" := by decide
  have isLines : Text.lines preview = _ := lines_of_pieces pieces
  rw [isLines, if_neg (List.cons_ne_nil _ _), List.map_append,
    List.map_singleton, line]
  exact List.mem_append_right _ (List.mem_singleton_self _)

theorem cut_isShown :
    OsPath.ofOsStr (Text.asBytes "/c/n") ∈ shownPaths noUrls [cacheName]
      (store.representationsOf entry.eventId) := by
  apply List.mem_flatMap.mpr
  refine ⟨files, by rw [representationsOf_entry]; exact List.mem_singleton_self _,
    ?_⟩
  have isList : isUriList files.rep = true := by decide
  have isPreview : truncateToPreview (Text.asBytes list) =
      Text.asBytes preview := truncateToPreview_ofList lineBreaks
  rw [isList]
  simp only [files, isPreview]
  rw [extractCachePaths_asBytes]
  apply List.mem_filter.mpr
  refine ⟨?_, by decide⟩
  apply List.mem_filterMap.mpr
  exact ⟨_, List.mem_map_of_mem cut_mem_lines, by decide⟩

theorem captured_isNote {path : OsPath}
    (isCaptured : path ∈ capturedPaths noUrls [cacheName]
      (store.representationsOf entry.eventId)) :
    path = OsPath.ofOsStr (Text.asBytes "/c/nnnn") := by
  rw [representationsOf_entry] at isCaptured
  obtain ⟨other, isFiles, inList⟩ := List.mem_flatMap.mp isCaptured
  rw [List.mem_singleton.mp isFiles] at inList
  have isList : isUriList files.rep = true := by decide
  rw [if_pos isList] at inList
  have text : files.captured = Text.asBytes list := by
    simp only [files]
  rw [text, extractCachePaths_asBytes, lines_list] at inList
  obtain ⟨trimmed, inLines, isPath⟩ :=
    List.mem_filterMap.mp (List.mem_filter.mp inList).1
  obtain ⟨line, isLine, isTrimmed⟩ := List.mem_map.mp inLines
  rw [← isTrimmed, List.eq_of_mem_replicate isLine] at isPath
  have same : linePath noUrls (Text.trim "/c/nnnn") =
      some (OsPath.ofOsStr (Text.asBytes "/c/nnnn")) := by decide
  rw [same] at isPath
  exact (Option.some.inj isPath).symm

end CutList

end OpenClipboard.History
