import OpenClipboard.Library.Transition
import OpenClipboard.Search.Projection
import Mathlib.Data.List.Sort

/-!
# The index as a mirror of the entry rows

The active time and the favorite flag of an entry are kept twice: in its row
and, by a copy made when the entry is indexed, in the index.  The history is
listed from the rows and browsed from the index, newest first.
-/

namespace OpenClipboard.Search

open Text
open Transition (execute Guarded)

/-- A row of `clipboard_entry` beside its key. -/
structure ClipboardEntryRow where
  eventId : String
  createdAtMs : Int
  activeTimeMs : Int
  contentCategory : ClipboardEntryContentCategory
  isFavorited : Bool
  deriving DecidableEq, Repr

def ClipboardEntryRow.toDomain (entryId : EntryId) (row : ClipboardEntryRow) :
    ClipboardEntry where
  entryId := entryId
  eventId := row.eventId
  createdAtMs := row.createdAtMs
  activeTimeMs := row.activeTimeMs
  contentCategory := row.contentCategory
  isFavorited := row.isFavorited

/-- An entry that is about to be saved, with a selection that the index does
not copy. -/
structure NewEntry where
  entryId : EntryId
  eventId : String
  createdAtMs : Int
  contentCategory : ClipboardEntryContentCategory
  deriving DecidableEq, Repr

/-- `ClipboardEntry::new`: the active time starts as the creation time. -/
def NewEntry.row (entry : NewEntry) : ClipboardEntryRow where
  eventId := entry.eventId
  createdAtMs := entry.createdAtMs
  activeTimeMs := entry.createdAtMs
  contentCategory := entry.contentCategory
  isFavorited := false

structure EntryWorld where
  entries : Table EntryId ClipboardEntryRow
  active : Generation

/-- The pipeline behind a projection: the preview cut of the extractor and
the terms of the tokenizer under the search key. -/
structure SearchPipeline where
  extractTextPreview : SearchPipelineInput → Option String
  buildPostings : SearchPipelineInput → Option (List SearchPosting)
  currentIndexVersion : String

namespace SearchPipeline

def buildDocument (pipeline : SearchPipeline) (input : SearchPipelineInput)
    (nowMs : Int) : SearchDocument where
  entryId := input.entryId
  eventId := input.eventId
  activeTimeMs := input.activeTimeMs
  capturedAtMs := input.capturedAtMs
  contentType := input.contentType
  tags := input.tags
  fileExtensions :=
    (input.fileExtensions.insertionSort (· ≤ ·)).destutter (· ≠ ·)
  mimeType := input.mimeType
  indexedAtMs := nowMs
  indexVersion := pipeline.currentIndexVersion
  textPreview := pipeline.extractTextPreview input
  charCount := input.charCount
  fileNames := input.fileNames
  filePaths := input.filePaths
  linkUrls := input.linkUrls
  sourceDevice := input.sourceDevice
  payloadState := input.payloadState

def build (pipeline : SearchPipeline) (input : SearchPipelineInput)
    (nowMs : Int) : Option (SearchDocument × List SearchPosting) :=
  (pipeline.buildPostings input).map fun postings =>
    (pipeline.buildDocument input nowMs, postings)

end SearchPipeline

/-- What indexing a captured entry goes by.  There is no selection when the
policy fails. -/
structure LiveIndexInput where
  snapshot : SystemClipboardSnapshot
  selection : Option ClipboardSelection
  sourceDevice : Option String
  hasDirectory : Bool
  keyDerived : Bool
  nowMs : Int

/-- What the user and the peers do to entries.  A local capture comes with the
answer of its lookup by hash; `touch` is the bump of an inbound re-activation,
of a restore and of a convergence; a delete may fail at the rows. -/
inductive EntryOperation where
  | captureLocal (existing : Option EntryId) (capturedAtMs : Int)
      (entry : NewEntry) (index : LiveIndexInput)
  | captureInbound (entry : NewEntry) (index : LiveIndexInput)
  | touch (entryId : EntryId) (activeTimeMs : Int)
  | toggleFavorite (entryId : EntryId) (isFavorited : Bool)
  | upgrade (entryId : EntryId) (eventId : String)
      (contentCategory : ClipboardEntryContentCategory)
      (index : LiveIndexInput)
  | delete (entryId : EntryId) (rowsFail : Bool)

namespace EntryWorld

def getEntry (world : EntryWorld) (entryId : EntryId) :
    Option ClipboardEntry :=
  (world.entries.find entryId).map (ClipboardEntryRow.toDomain entryId)

/-- `save_entry_and_selection`; a taken key fails the insert. -/
def saveEntry (world : EntryWorld) (entry : NewEntry) : Option EntryWorld :=
  match world.entries.find entry.entryId with
  | some _ => none
  | none =>
      some { world with entries := world.entries.put entry.entryId entry.row }

/-- `touch_entry` with the rows it has updated: none or one. -/
def touchEntry (world : EntryWorld) (entryId : EntryId) (activeTimeMs : Int) :
    EntryWorld × Bool :=
  match world.entries.find entryId with
  | none => (world, false)
  | some row =>
      ({ world with
        entries := world.entries.put entryId
          { row with activeTimeMs := activeTimeMs } }, true)

/-- `set_favorite` with the rows it has updated. -/
def setFavorite (world : EntryWorld) (entryId : EntryId)
    (isFavorited : Bool) : EntryWorld × Bool :=
  match world.entries.find entryId with
  | none => (world, false)
  | some row =>
      ({ world with
        entries := world.entries.put entryId
          { row with isFavorited := isFavorited } }, true)

/-- The entry part of `replace_entry_content`: the sticky fields stay. -/
def replaceEntryContent (world : EntryWorld) (entryId : EntryId)
    (eventId : String) (contentCategory : ClipboardEntryContentCategory) :
    Option EntryWorld :=
  match world.entries.find entryId with
  | none => none
  | some row =>
      some { world with
        entries := world.entries.put entryId
          { row with eventId := eventId, contentCategory := contentCategory } }

def writeIndex (world : EntryWorld) (write : IndexWrite) :
    Option EntryWorld :=
  (write.writeActive world.active).map fun active =>
    { world with active := active }

section Steps

variable (urlParse : UrlParse) (toLowercase : String → String)
variable (pipeline : SearchPipeline)

/-- What is to be indexed of an entry; nothing where the pass is skipped or
gives up before its write. -/
def projectCapture (input : LiveIndexInput) (entry : ClipboardEntry) :
    Option (SearchDocument × List SearchPosting) := do
  let selection ← input.selection
  let projected ← buildFromCapture urlParse toLowercase entry input.snapshot
    selection input.sourceDevice input.hasDirectory
  if input.keyDerived then
    pipeline.build projected input.nowMs
  else
    none

/-- `index_capture`; `none` when the write itself fails. -/
def indexCapture (world : EntryWorld) (entryId : EntryId)
    (input : LiveIndexInput) : Option EntryWorld :=
  match (world.getEntry entryId).bind
      (projectCapture urlParse toLowercase pipeline input) with
  | none => some world
  | some (document, postings) =>
      world.writeIndex (.indexEntry document postings)

/-- Save a new entry and index it; a capture that fails leaves nothing. -/
def captureNew (world : EntryWorld) (entry : NewEntry)
    (input : LiveIndexInput) : Option EntryWorld :=
  match world.saveEntry entry with
  | none => some world
  | some saved =>
      saved.indexCapture urlParse toLowercase pipeline entry.entryId input

/-- `resurface_existing_entry`: the world with the entry bumped, or nothing
when the capture has to be saved as a new entry. -/
def resurfaceExistingEntry (world : EntryWorld) (existing : Option EntryId)
    (capturedAtMs : Int) : Option EntryWorld :=
  match existing with
  | none => none
  | some entryId =>
      match world.touchEntry entryId capturedAtMs with
      | (touched, true) => some touched
      | (_, false) => none

/-- One operation; `none` where a write to the index fails. -/
def step (world : EntryWorld) : EntryOperation → Option EntryWorld
  | .captureLocal existing capturedAtMs entry input =>
      match world.resurfaceExistingEntry existing capturedAtMs with
      | some resurfaced => some resurfaced
      | none =>
          world.captureNew urlParse toLowercase pipeline entry input
  | .captureInbound entry input =>
      world.captureNew urlParse toLowercase pipeline entry input
  | .touch entryId activeTimeMs =>
      some (world.touchEntry entryId activeTimeMs).1
  | .toggleFavorite entryId isFavorited =>
      match world.setFavorite entryId isFavorited with
      | (_, false) => some world
      | (stored, true) =>
          stored.writeIndex (.setEntryFavoriteTag entryId isFavorited)
  | .upgrade entryId eventId contentCategory input =>
      match world.replaceEntryContent entryId eventId contentCategory with
      | none => some world
      | some replaced =>
          replaced.indexCapture urlParse toLowercase pipeline entryId input
  | .delete entryId rowsFail =>
      match world.entries.find entryId with
      | none => some world
      | some _ =>
          (world.writeIndex (.removeEntry entryId)).map fun removed =>
            if rowsFail then
              removed
            else
              { removed with entries := removed.entries.remove entryId }

end Steps

end EntryWorld

/-! ## The mirror -/

/-- A listing of a table with the newest row first; rows of one time may come
in any order. -/
structure NewestFirst {Row : Type} (timeOf : Row → Int)
    (table : Table EntryId Row) (listing : List EntryId) : Prop where
  nodup : listing.Nodup
  complete : ∀ entryId, entryId ∈ listing ↔
    (table.find entryId).isSome = true
  ordered : listing.Pairwise fun earlier later =>
    ∀ newer older, table.find earlier = some newer →
      table.find later = some older → timeOf older ≤ timeOf newer

namespace EntryWorld

/-- Each indexed entry has a row, with the active time and the favorite flag
that the index holds of it. -/
def FieldsMirrored (world : EntryWorld) : Prop :=
  ∀ entryId document, world.active.documents.find entryId = some document →
    ∃ row, world.entries.find entryId = some row ∧
      document.activeTimeMs = row.activeTimeMs ∧
      (world.active.entryTags.find (entryId, TagId.favorited)).isSome =
        row.isFavorited

def isIndexed (world : EntryWorld) (entryId : EntryId) : Bool :=
  (world.active.documents.find entryId).isSome

/-- The index mirrors the rows, and so a browse of the indexed entries can
give them in the order of the history. -/
structure IndexMirrors (world : EntryWorld) : Prop where
  fields : world.FieldsMirrored
  order : ∀ listing,
    NewestFirst ClipboardEntryRow.activeTimeMs world.entries listing →
      NewestFirst SearchDocumentRow.activeTimeMs world.active.documents
        (listing.filter world.isIndexed)

theorem FieldsMirrored.indexMirrors {world : EntryWorld}
    (mirrored : world.FieldsMirrored) : world.IndexMirrors := by
  refine ⟨mirrored, fun listing listed => ⟨?_, ?_, ?_⟩⟩
  · exact listed.nodup.filter _
  · intro entryId
    rw [List.mem_filter, listed.complete entryId]
    constructor
    · exact And.right
    · intro isIndexed
      obtain ⟨document, found⟩ := Option.isSome_iff_exists.mp isIndexed
      obtain ⟨row, foundRow, _⟩ := mirrored entryId document found
      exact ⟨by rw [foundRow]; rfl, isIndexed⟩
  · have ordered := listed.ordered.filter world.isIndexed
    apply ordered.imp
    intro earlier later inOrder newer older foundNewer foundOlder
    obtain ⟨newerRow, foundNewerRow, newerTime, _⟩ :=
      mirrored earlier newer foundNewer
    obtain ⟨olderRow, foundOlderRow, olderTime, _⟩ :=
      mirrored later older foundOlder
    have times := inOrder newerRow olderRow foundNewerRow foundOlderRow
    omega

/-- A bump to the time that the row has, or of an entry that is not indexed. -/
def KeepsActiveTime (world : EntryWorld) (entryId : EntryId)
    (activeTimeMs : Int) : Prop :=
  ∀ row, world.entries.find entryId = some row →
    world.isIndexed entryId = true → activeTimeMs = row.activeTimeMs

/-- The operation bumps no indexed entry to another time. -/
def keepsActiveTimes (world : EntryWorld) : EntryOperation → Prop
  | .captureLocal (some existing) capturedAtMs _ _ =>
      world.KeepsActiveTime existing capturedAtMs
  | .touch entryId activeTimeMs => world.KeepsActiveTime entryId activeTimeMs
  | _ => True

end EntryWorld

/-! ## Writes to the index -/

variable {entryId : EntryId} {input : LiveIndexInput}

theorem Generation.find_document_eq {first second : Generation}
    (same : first.read (.document entryId) = second.read (.document entryId)) :
    first.documents.find entryId = second.documents.find entryId := by
  have injective : Function.Injective CellRow.document := by
    intro row other sameCell
    cases sameCell
    rfl
  exact Option.map_injective injective same

theorem Generation.isSome_read_tag (generation : Generation)
    (entryId : EntryId) (tagId : TagId) :
    (generation.read (.tag entryId tagId)).isSome =
      (generation.entryTags.find (entryId, tagId)).isSome :=
  Option.isSome_map

theorem lastWrite_putTags (entryId other : EntryId) (tagId : TagId)
    (tags : List TagId) :
    indexWrites.lastWrite
        (tags.map fun tagId => Statement.putTag entryId tagId)
        (.tag other tagId) =
      if other = entryId ∧ tagId ∈ tags then some (some .tag) else none := by
  induction tags using List.reverseRecOn with
  | nil => simp [BlindWrites.lastWrite]
  | append_singleton past last inductionHypothesis =>
      rw [List.map_append, List.map_cons, List.map_nil,
        BlindWrites.lastWrite_append_singleton, inductionHypothesis]
      by_cases same : other = entryId
      · by_cases isLast : tagId = last
        · simp [indexWrites, Statement.effect, same, isLast]
        · simp [indexWrites, Statement.effect, same, isLast]
      · simp [indexWrites, Statement.effect, same]

theorem lastWrite_entryStatements_document (document : SearchDocument)
    (postings : List SearchPosting) (entryId : EntryId) :
    indexWrites.lastWrite (entryStatements document postings)
        (.document entryId) =
      if entryId = document.entryId then
        some (some (.document (SearchDocumentRow.fromDomain document)))
      else
        none := by
  have tags : indexWrites.lastWrite
      (document.tags.map fun tagId =>
        Statement.putTag document.entryId tagId) (.document entryId) = none :=
    indexWrites.lastWrite_eq_none (by simp [indexWrites, Statement.effect])
  have terms : indexWrites.lastWrite
      (postings.map fun posting => Statement.putPosting posting.entryId
        posting.termTag (SearchPostingRow.fromDomain posting))
      (.document entryId) = none :=
    indexWrites.lastWrite_eq_none (by simp [indexWrites, Statement.effect])
  rw [entryStatements, BlindWrites.lastWrite_append, tags,
    BlindWrites.lastWrite_append, BlindWrites.lastWrite_append, terms]
  simp [BlindWrites.lastWrite, indexWrites, Statement.effect,
    SearchDocumentRow.fromDomain]

theorem lastWrite_entryStatements_tag (document : SearchDocument)
    (postings : List SearchPosting) (entryId : EntryId) (tagId : TagId) :
    indexWrites.lastWrite (entryStatements document postings)
        (.tag entryId tagId) =
      if entryId = document.entryId then
        some (if tagId ∈ document.tags then some .tag else none)
      else
        none := by
  have terms : indexWrites.lastWrite
      (postings.map fun posting => Statement.putPosting posting.entryId
        posting.termTag (SearchPostingRow.fromDomain posting))
      (.tag entryId tagId) = none :=
    indexWrites.lastWrite_eq_none (by simp [indexWrites, Statement.effect])
  rw [entryStatements, BlindWrites.lastWrite_append, lastWrite_putTags,
    BlindWrites.lastWrite_append, BlindWrites.lastWrite_append, terms]
  by_cases same : entryId = document.entryId
  · by_cases isThere : tagId ∈ document.tags
    · simp [same, isThere]
    · simp [BlindWrites.lastWrite, indexWrites, Statement.effect, same,
        isThere]
  · simp [BlindWrites.lastWrite, indexWrites, Statement.effect, same]

theorem favorited_not_mem_builtin (urlParse : UrlParse)
    (content : TaggableContent) :
    TagId.favorited ∉ evaluateBuiltinContentTags urlParse content := by
  intro member
  obtain ⟨rule, isRule, named⟩ := List.mem_map.mp member
  have listed := (List.mem_filter.mp isRule).1
  have notFavorited : ∀ other ∈ builtinRules urlParse,
      other.1 ≠ TagId.favorited := by
    simp [builtinRules, TagId.link, TagId.image, TagId.directory,
      TagId.code, TagId.favorited]
  exact notFavorited rule listed named

theorem copies_of_buildFromCapture {urlParse : UrlParse}
    {toLowercase : String → String} {entry : ClipboardEntry}
    {snapshot : SystemClipboardSnapshot} {selection : ClipboardSelection}
    {sourceDevice : Option String} {hasDirectory : Bool}
    {input : SearchPipelineInput}
    (built : buildFromCapture urlParse toLowercase entry snapshot selection
      sourceDevice hasDirectory = some input) :
    input.entryId = entry.entryId ∧ input.activeTimeMs = entry.activeTimeMs ∧
      (TagId.favorited ∈ input.tags ↔ entry.isFavorited = true) := by
  unfold buildFromCapture SearchableContent.intoPipelineInput at built
  split at built
  · cases built
  · cases built
    refine ⟨rfl, rfl, ?_⟩
    by_cases favorited : entry.isFavorited = true
    · simp [favorited]
    · simp [favorited, favorited_not_mem_builtin]

namespace EntryWorld

variable {world next : EntryWorld}

theorem reads_writeIndex {write : IndexWrite}
    (wrote : world.writeIndex write = some next) :
    next.entries = world.entries ∧ ∀ cell, next.active.read cell =
      (indexWrites.lastWrite write.statements cell).getD
        (world.active.read cell) := by
  obtain ⟨active, written, rfl⟩ := Option.map_eq_some_iff.mp wrote
  refine ⟨rfl, fun cell => ?_⟩
  rw [IndexWrite.writeActive_eq_replay written]
  exact indexWrites.read_replay _ _ _

theorem finds_of_untouched {write : IndexWrite} (entryId : EntryId)
    (wrote : world.writeIndex write = some next)
    (document : indexWrites.lastWrite write.statements (.document entryId) =
      none)
    (tag : indexWrites.lastWrite write.statements
      (.tag entryId TagId.favorited) = none) :
    next.active.documents.find entryId =
        world.active.documents.find entryId ∧
      (next.active.entryTags.find (entryId, TagId.favorited)).isSome =
        (world.active.entryTags.find (entryId, TagId.favorited)).isSome := by
  obtain ⟨_, reads⟩ := reads_writeIndex wrote
  constructor
  · apply Generation.find_document_eq
    rw [reads, document]
    rfl
  · rw [← Generation.isSome_read_tag, ← Generation.isSome_read_tag, reads, tag]
    rfl

theorem FieldsMirrored.indexEntry (mirrored : world.FieldsMirrored)
    {document : SearchDocument} {postings : List SearchPosting}
    {row : ClipboardEntryRow}
    (wrote : world.writeIndex (.indexEntry document postings) = some next)
    (stored : world.entries.find document.entryId = some row)
    (sameTime : document.activeTimeMs = row.activeTimeMs)
    (sameFavorite : TagId.favorited ∈ document.tags ↔
      row.isFavorited = true) : next.FieldsMirrored := by
  obtain ⟨sameEntries, reads⟩ := reads_writeIndex wrote
  have documentCell := fun entryId =>
    lastWrite_entryStatements_document document postings entryId
  have tagCell := fun entryId =>
    lastWrite_entryStatements_tag document postings entryId TagId.favorited
  intro entryId held found
  rw [sameEntries]
  by_cases same : entryId = document.entryId
  · subst same
    refine ⟨row, stored, ?_, ?_⟩
    · have cell := reads (.document document.entryId)
      rw [IndexWrite.statements, documentCell, if_pos rfl] at cell
      simp only [Generation.read, found, Option.map_some, Option.getD_some,
        Option.some.injEq, CellRow.document.injEq] at cell
      rw [cell]
      exact sameTime
    · rw [← Generation.isSome_read_tag, reads, IndexWrite.statements, tagCell,
        if_pos rfl, Option.getD_some]
      by_cases favorited : row.isFavorited = true
      · rw [if_pos (sameFavorite.mpr favorited), favorited]
        rfl
      · rw [if_neg fun isThere => favorited (sameFavorite.mp isThere),
          Bool.eq_false_iff.mpr favorited]
        rfl
  · have untouched := finds_of_untouched entryId wrote
      ((documentCell entryId).trans (if_neg same))
      ((tagCell entryId).trans (if_neg same))
    rw [untouched.1] at found
    rw [untouched.2]
    exact mirrored entryId held found

theorem FieldsMirrored.removeEntry (mirrored : world.FieldsMirrored)
    (wrote : world.writeIndex (.removeEntry entryId) = some next) :
    next.FieldsMirrored ∧ next.entries = world.entries ∧
      next.active.documents.find entryId = none := by
  obtain ⟨sameEntries, reads⟩ := reads_writeIndex wrote
  have removed : next.active.documents.find entryId = none := by
    have cell := reads (.document entryId)
    simpa [IndexWrite.statements, deleteStatements, BlindWrites.lastWrite,
      indexWrites, Statement.effect, Generation.read] using cell
  refine ⟨?_, sameEntries, removed⟩
  intro other held found
  rw [sameEntries]
  by_cases same : other = entryId
  · rw [same, removed] at found
    cases found
  · have untouched := finds_of_untouched other wrote
      (by simp [IndexWrite.statements, deleteStatements,
        BlindWrites.lastWrite, indexWrites, Statement.effect, same])
      (by simp [IndexWrite.statements, deleteStatements,
        BlindWrites.lastWrite, indexWrites, Statement.effect, same])
    rw [untouched.1] at found
    rw [untouched.2]
    exact mirrored other held found

/-! ## One operation -/

section Steps

variable {urlParse : UrlParse} {toLowercase : String → String}
variable {pipeline : SearchPipeline}

theorem FieldsMirrored.indexCapture (mirrored : world.FieldsMirrored)
    (indexed : world.indexCapture urlParse toLowercase pipeline entryId input =
      some next) : next.FieldsMirrored := by
  unfold EntryWorld.indexCapture at indexed
  split at indexed
  · cases indexed
    exact mirrored
  · rename_i document postings projected
    obtain ⟨entry, found, projects⟩ := Option.bind_eq_some_iff.mp projected
    obtain ⟨row, stored, rfl⟩ := Option.map_eq_some_iff.mp found
    unfold projectCapture at projects
    obtain ⟨selection, _, rest⟩ := Option.bind_eq_some_iff.mp projects
    obtain ⟨projection, built, rest⟩ := Option.bind_eq_some_iff.mp rest
    obtain ⟨sameId, sameTime, sameFavorite⟩ :=
      copies_of_buildFromCapture built
    split at rest
    · obtain ⟨terms, _, pair⟩ := Option.map_eq_some_iff.mp rest
      cases pair
      have found := (congrArg world.entries.find sameId).trans stored
      exact mirrored.indexEntry indexed found sameTime sameFavorite
    · cases rest

theorem FieldsMirrored.captureNew (mirrored : world.FieldsMirrored)
    {entry : NewEntry}
    (captured : world.captureNew urlParse toLowercase pipeline entry input =
      some next) : next.FieldsMirrored := by
  unfold EntryWorld.captureNew at captured
  cases taken : world.entries.find entry.entryId with
  | some row =>
      simp only [saveEntry, taken, Option.some.injEq] at captured
      rw [← captured]
      exact mirrored
  | none =>
      simp only [saveEntry, taken] at captured
      apply FieldsMirrored.indexCapture _ captured
      intro other held found
      obtain ⟨row, stored, copies⟩ := mirrored other held found
      have different : other ≠ entry.entryId := by
        rintro rfl
        rw [taken] at stored
        cases stored
      exact ⟨row, (Table.find_put_of_ne different).trans stored, copies⟩

theorem fieldsMirrored_touchEntry_iff (mirrored : world.FieldsMirrored)
    (entryId : EntryId) (activeTimeMs : Int) :
    (world.touchEntry entryId activeTimeMs).1.FieldsMirrored ↔
      world.KeepsActiveTime entryId activeTimeMs := by
  unfold touchEntry
  cases stored : world.entries.find entryId with
  | none =>
      apply iff_of_true mirrored
      intro row found
      rw [stored] at found
      cases found
  | some row =>
      constructor
      · intro still other found isIndexed
        rw [stored] at found
        cases found
        obtain ⟨document, held⟩ := Option.isSome_iff_exists.mp isIndexed
        obtain ⟨before, foundBefore, timeBefore, _⟩ :=
          mirrored entryId document held
        obtain ⟨after, foundAfter, timeAfter, _⟩ :=
          still entryId document held
        rw [stored] at foundBefore
        rw [Table.find_put_self] at foundAfter
        cases foundBefore
        cases foundAfter
        exact timeAfter.symm.trans timeBefore
      · intro keeps other document held
        obtain ⟨before, foundBefore, timeBefore, favorite⟩ :=
          mirrored other document held
        by_cases same : other = entryId
        · subst same
          rw [stored] at foundBefore
          cases foundBefore
          refine ⟨_, Table.find_put_self, ?_, favorite⟩
          have isIndexed : world.isIndexed other = true :=
            Option.isSome_iff_exists.mpr ⟨document, held⟩
          rw [timeBefore]
          exact (keeps row stored isIndexed).symm
        · exact ⟨before, (Table.find_put_of_ne same).trans foundBefore,
            timeBefore, favorite⟩

theorem FieldsMirrored.toggleFavorite (mirrored : world.FieldsMirrored)
    {isFavorited : Bool}
    (toggled : world.step urlParse toLowercase pipeline
      (.toggleFavorite entryId isFavorited) = some next) :
    next.FieldsMirrored := by
  cases stored : world.entries.find entryId with
  | none =>
      simp only [EntryWorld.step, setFavorite, stored,
        Option.some.injEq] at toggled
      rw [← toggled]
      exact mirrored
  | some row =>
      simp only [EntryWorld.step, setFavorite, stored] at toggled
      obtain ⟨sameEntries, reads⟩ := reads_writeIndex toggled
      intro other held found
      have sameDocument : next.active.documents.find other =
          world.active.documents.find other := by
        apply Generation.find_document_eq
        rw [reads]
        cases isFavorited <;> rfl
      rw [sameDocument] at found
      obtain ⟨before, foundBefore, timeBefore, favorite⟩ :=
        mirrored other held found
      rw [sameEntries]
      by_cases same : other = entryId
      · subst same
        rw [stored] at foundBefore
        cases foundBefore
        refine ⟨_, Table.find_put_self, timeBefore, ?_⟩
        rw [← Generation.isSome_read_tag, reads]
        cases isFavorited <;>
          simp [IndexWrite.statements, favoriteStatements,
            BlindWrites.lastWrite, indexWrites, Statement.effect]
      · refine ⟨before, (Table.find_put_of_ne same).trans foundBefore,
          timeBefore, ?_⟩
        have untouched := (finds_of_untouched other toggled
          (by cases isFavorited <;> rfl)
          (by cases isFavorited <;>
            simp [IndexWrite.statements, favoriteStatements,
              BlindWrites.lastWrite, indexWrites, Statement.effect,
              same])).2
        rw [untouched]
        exact favorite

theorem FieldsMirrored.upgrade (mirrored : world.FieldsMirrored)
    {eventId : String} {contentCategory : ClipboardEntryContentCategory}
    (upgraded : world.step urlParse toLowercase pipeline
      (.upgrade entryId eventId contentCategory input) = some next) :
    next.FieldsMirrored := by
  cases stored : world.entries.find entryId with
  | none =>
      simp only [EntryWorld.step, replaceEntryContent, stored,
        Option.some.injEq] at upgraded
      rw [← upgraded]
      exact mirrored
  | some row =>
      simp only [EntryWorld.step, replaceEntryContent, stored] at upgraded
      apply FieldsMirrored.indexCapture _ upgraded
      intro other held found
      obtain ⟨before, foundBefore, copies⟩ := mirrored other held found
      by_cases same : other = entryId
      · subst same
        rw [stored] at foundBefore
        cases foundBefore
        exact ⟨_, Table.find_put_self, copies⟩
      · exact ⟨before, (Table.find_put_of_ne same).trans foundBefore, copies⟩

theorem FieldsMirrored.delete (mirrored : world.FieldsMirrored)
    {rowsFail : Bool}
    (deleted : world.step urlParse toLowercase pipeline
      (.delete entryId rowsFail) = some next) : next.FieldsMirrored := by
  cases stored : world.entries.find entryId with
  | none =>
      simp only [EntryWorld.step, stored, Option.some.injEq] at deleted
      rw [← deleted]
      exact mirrored
  | some row =>
      simp only [EntryWorld.step, stored] at deleted
      obtain ⟨removed, wrote, rfl⟩ := Option.map_eq_some_iff.mp deleted
      obtain ⟨still, _, gone⟩ := mirrored.removeEntry wrote
      cases rowsFail with
      | true => exact still
      | false =>
          intro other held found
          obtain ⟨before, foundBefore, copies⟩ := still other held found
          have different : other ≠ entryId := by
            rintro rfl
            have absent := gone.symm.trans found
            cases absent
          refine ⟨before, ?_, copies⟩
          exact Table.find_remove.trans ((if_neg different).trans foundBefore)

theorem fieldsMirrored_step_iff (mirrored : world.FieldsMirrored)
    {operation : EntryOperation}
    (stepped : world.step urlParse toLowercase pipeline operation =
      some next) :
    next.FieldsMirrored ↔ world.keepsActiveTimes operation := by
  cases operation with
  | captureLocal existing capturedAtMs entry input =>
      cases existing with
      | none =>
          exact iff_of_true (mirrored.captureNew stepped) trivial
      | some entryId =>
          have bumped := fieldsMirrored_touchEntry_iff mirrored entryId
            capturedAtMs
          cases stored : world.entries.find entryId with
          | none =>
              simp only [EntryWorld.step, resurfaceExistingEntry, touchEntry,
                stored] at stepped bumped
              exact iff_of_true (mirrored.captureNew stepped)
                (bumped.mp mirrored)
          | some row =>
              simp only [EntryWorld.step, resurfaceExistingEntry, touchEntry,
                stored, Option.some.injEq] at stepped bumped
              rw [← stepped]
              exact bumped
  | captureInbound entry input =>
      exact iff_of_true (mirrored.captureNew stepped) trivial
  | touch entryId activeTimeMs =>
      have bumped := fieldsMirrored_touchEntry_iff mirrored entryId
        activeTimeMs
      rw [Option.some.inj stepped] at bumped
      exact bumped
  | toggleFavorite entryId isFavorited =>
      exact iff_of_true (mirrored.toggleFavorite stepped) trivial
  | upgrade entryId eventId contentCategory input =>
      exact iff_of_true (mirrored.upgrade stepped) trivial
  | delete entryId rowsFail =>
      exact iff_of_true (mirrored.delete stepped) trivial

theorem keepsActiveTimes_of_none {operation : EntryOperation}
    (stopped : world.step urlParse toLowercase pipeline operation = none) :
    world.keepsActiveTimes operation := by
  cases operation with
  | captureLocal existing capturedAtMs entry input =>
      cases existing with
      | none => trivial
      | some entryId =>
          intro row stored
          simp only [EntryWorld.step, resurfaceExistingEntry, touchEntry,
            stored] at stopped
          cases stopped
  | touch entryId activeTimeMs => cases stopped
  | _ => trivial

end Steps

end EntryWorld

/-- A state to start from: nothing is stored yet, or the index mirrors the
rows. -/
structure MirroredWorld where
  world : EntryWorld
  mirrored : world.FieldsMirrored

/-- The index mirrors the rows throughout a list of operations exactly if none
of them bumps an indexed entry to another time. -/
theorem indexMirrors_iff (urlParse : UrlParse)
    (toLowercase : String → String) (pipeline : SearchPipeline)
    (start : MirroredWorld) (operations : List EntryOperation) :
    (∀ done finish, done <+: operations →
      execute (EntryWorld.step urlParse toLowercase pipeline) start.world done =
          some finish →
        finish.IndexMirrors) ↔
      Guarded (EntryWorld.step urlParse toLowercase pipeline)
        EntryWorld.keepsActiveTimes start.world operations := by
  have throughout := @Transition.guarded_iff_history _ _
    (EntryWorld.step urlParse toLowercase pipeline)
    EntryWorld.keepsActiveTimes (fun _ world => world.IndexMirrors) []
    operations start.world
    (fun _ _ _ stopped => EntryWorld.keepsActiveTimes_of_none stopped)
    (by
      intro _ world operation _ next mirrors stepped
      rw [← EntryWorld.fieldsMirrored_step_iff mirrors.fields stepped]
      exact ⟨EntryWorld.IndexMirrors.fields,
        EntryWorld.FieldsMirrored.indexMirrors⟩)
    start.mirrored.indexMirrors
  simpa only [List.nil_append] using throughout

namespace Mirror.Sample

def emptyWorld : MirroredWorld where
  world := ⟨∅, Generation.empty⟩
  mirrored := by
    intro entryId document found
    simp [Generation.empty] at found

def pipeline : SearchPipeline where
  extractTextPreview input := input.plainText
  buildPostings _ := some []
  currentIndexVersion := "1"

def textSnapshot (bytes : List UInt8) : SystemClipboardSnapshot where
  tsMs := 10
  representations :=
    [ObservedClipboardRepresentation.new "r1" "text" (some "text/plain") bytes]

def textIndex (bytes : List UInt8) : LiveIndexInput where
  snapshot := textSnapshot bytes
  selection := some ⟨"r1", "r1", "r1", []⟩
  sourceDevice := none
  hasDirectory := false
  keyDerived := true
  nowMs := 11

/-- Two texts are copied one after the other, then the first once more. -/
def recopied : List EntryOperation :=
  [.captureLocal none 10 ⟨⟨"e1"⟩, "v1", 10, .text⟩ (textIndex [104]),
    .captureLocal none 20 ⟨⟨"e2"⟩, "v2", 20, .text⟩ (textIndex [105]),
    .captureLocal (some ⟨"e1"⟩) 30 ⟨⟨"e3"⟩, "v3", 30, .text⟩
      (textIndex [104])]

def activeTimes (entryId : EntryId) (world : EntryWorld) :
    Option Int × Option Int :=
  ((world.entries.find entryId).map ClipboardEntryRow.activeTimeMs,
    (world.active.documents.find entryId).map SearchDocumentRow.activeTimeMs)

/-- The index holds the time of the first copy. -/
theorem recopied_staysBehind :
    ¬ ∀ done finish, done <+: recopied →
      execute (EntryWorld.step (fun _ => none) toAsciiLowercase pipeline)
          emptyWorld.world done = some finish → finish.IndexMirrors := by
  intro mirrors
  have report : (execute
      (EntryWorld.step (fun _ => none) toAsciiLowercase pipeline)
      emptyWorld.world recopied).map (activeTimes ⟨"e1"⟩) =
        some (some 30, some 10) := by
    decide +kernel
  obtain ⟨finish, executed, seen⟩ := Option.map_eq_some_iff.mp report
  obtain ⟨inRow, inIndex⟩ := Prod.mk.inj seen
  obtain ⟨row, stored, rowTime⟩ := Option.map_eq_some_iff.mp inRow
  obtain ⟨document, held, heldTime⟩ := Option.map_eq_some_iff.mp inIndex
  obtain ⟨other, found, sameTime, _⟩ :=
    (mirrors _ finish (List.prefix_refl _) executed).fields _ document held
  rw [stored] at found
  cases found
  omega

end Mirror.Sample

end OpenClipboard.Search
