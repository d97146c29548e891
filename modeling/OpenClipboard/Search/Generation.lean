import OpenClipboard.Core.ActiveState
import OpenClipboard.Library.Table
import OpenClipboard.Library.WriteLog

/-!
# A generation of the search index

The index keeps three tables: one document row for an entry, one posting row
for each of its terms, and one membership row for each of its tags.  Live
writes change the active tables in a transaction; a rebuild fills a second
generation of the same tables one statement at a time.
-/

namespace OpenClipboard.Search

/-- The physical form of an entry. -/
inductive ContentType where
  | text
  | image
  | file
  | html
  | other
  deriving DecidableEq, Repr

structure TagId where
  asStr : String
  deriving DecidableEq, Repr

namespace TagId

def link : TagId := ⟨"link"⟩
def favorited : TagId := ⟨"favorited"⟩
def image : TagId := ⟨"image"⟩
def code : TagId := ⟨"code"⟩
def directory : TagId := ⟨"directory"⟩

end TagId

structure SearchDocument where
  entryId : EntryId
  eventId : String
  activeTimeMs : Int
  capturedAtMs : Int
  contentType : ContentType
  tags : List TagId
  fileExtensions : List String
  mimeType : String
  indexedAtMs : Int
  indexVersion : String
  textPreview : Option String
  charCount : Option Int
  fileNames : List String
  filePaths : List String
  linkUrls : List String
  sourceDevice : Option String
  payloadState : Option String
  deriving DecidableEq, Repr

structure SearchPosting where
  termTag : List UInt8
  entryId : EntryId
  fieldMask : UInt8
  termFreq : UInt32
  deriving DecidableEq, Repr

/-- A row of `search_document`.  The five render fields stand for the sealed
column as it opens again; the tags have a table of their own. -/
structure SearchDocumentRow where
  entryId : EntryId
  eventId : String
  activeTimeMs : Int
  capturedAtMs : Int
  fileType : ContentType
  fileExtensions : List String
  mimeType : String
  indexedAtMs : Int
  indexVersion : String
  textPreview : Option String
  charCount : Option Int
  fileNames : List String
  filePaths : List String
  linkUrls : List String
  sourceDevice : Option String
  payloadState : Option String
  deriving DecidableEq, Repr

def SearchDocumentRow.fromDomain (document : SearchDocument) :
    SearchDocumentRow where
  entryId := document.entryId
  eventId := document.eventId
  activeTimeMs := document.activeTimeMs
  capturedAtMs := document.capturedAtMs
  fileType := document.contentType
  fileExtensions := document.fileExtensions
  mimeType := document.mimeType
  indexedAtMs := document.indexedAtMs
  indexVersion := document.indexVersion
  textPreview := document.textPreview
  charCount := document.charCount
  fileNames := document.fileNames
  filePaths := document.filePaths
  linkUrls := document.linkUrls
  sourceDevice := document.sourceDevice
  payloadState := document.payloadState

/-- A row of `search_posting` beside its key. -/
structure SearchPostingRow where
  fieldMask : Int
  termFreq : Int
  deriving DecidableEq, Repr

/-- Both numbers are cast to `i32`. -/
def SearchPostingRow.fromDomain (posting : SearchPosting) :
    SearchPostingRow where
  fieldMask := posting.fieldMask.toNat
  termFreq := posting.termFreq.toInt32.toInt

structure SearchIndexMeta where
  indexVersion : String
  searchBlocked : Bool
  lastRebuildStartedAtMs : Option Int
  lastRebuildCompletedAtMs : Option Int
  deriving DecidableEq, Repr

structure Generation where
  documents : Table EntryId SearchDocumentRow
  postings : Table (EntryId × List UInt8) SearchPostingRow
  entryTags : Table (EntryId × TagId) Unit

namespace Generation

def empty : Generation := ⟨∅, ∅, ∅⟩

end Generation

/-! ## Statements -/

inductive Statement where
  | deletePostings (entryId : EntryId)
  | putDocument (row : SearchDocumentRow)
  | putPosting (entryId : EntryId) (termTag : List UInt8)
      (row : SearchPostingRow)
  | deleteDocument (entryId : EntryId)
  | deleteTags (entryId : EntryId)
  | putTag (entryId : EntryId) (tagId : TagId)
  | deleteTag (entryId : EntryId) (tagId : TagId)
  deriving DecidableEq, Repr

namespace Statement

def perform (generation : Generation) : Statement → Generation
  | deletePostings entryId =>
      { generation with
        postings :=
          generation.postings.removeWhere (fun key => key.1 = entryId) }
  | putDocument row =>
      { generation with
        documents := generation.documents.put row.entryId row }
  | putPosting entryId termTag row =>
      { generation with
        postings := generation.postings.put (entryId, termTag) row }
  | deleteDocument entryId =>
      { generation with documents := generation.documents.remove entryId }
  | deleteTags entryId =>
      { generation with
        entryTags :=
          generation.entryTags.removeWhere (fun key => key.1 = entryId) }
  | putTag entryId tagId =>
      { generation with
        entryTags := generation.entryTags.put (entryId, tagId) () }
  | deleteTag entryId tagId =>
      { generation with
        entryTags := generation.entryTags.remove (entryId, tagId) }

/-- `CHECK (term_freq > 0)`. -/
def violatesCheck : Statement → Bool
  | putPosting _ _ row => decide (row.termFreq ≤ 0)
  | _ => false

/-- The primary key is taken, so a plain `INSERT` fails. -/
def keyTaken (generation : Generation) : Statement → Bool
  | putPosting entryId termTag _ =>
      (generation.postings.find (entryId, termTag)).isSome
  | putTag entryId tagId =>
      (generation.entryTags.find (entryId, tagId)).isSome
  | _ => false

end Statement

/-- Run statements in one transaction, with plain inserts of postings and
tags; `none` is a rollback. -/
def runTransaction : List Statement → Generation → Option Generation
  | [], generation => some generation
  | statement :: rest, generation =>
      if statement.violatesCheck || statement.keyTaken generation then
        none
      else
        runTransaction rest (statement.perform generation)

/-- The statements of `insert_temp_entry`, and with plain inserts those of
`upsert_active_entry`. -/
def entryStatements (document : SearchDocument)
    (postings : List SearchPosting) : List Statement :=
  [.deletePostings document.entryId,
    .putDocument (SearchDocumentRow.fromDomain document)] ++
  postings.map (fun posting => .putPosting posting.entryId posting.termTag
    (SearchPostingRow.fromDomain posting)) ++
  [.deleteTags document.entryId] ++
  document.tags.map (fun tagId => .putTag document.entryId tagId)

/-- The statements of `delete_active_entry` and `delete_temp_entry`. -/
def deleteStatements (entryId : EntryId) : List Statement :=
  [.deletePostings entryId, .deleteDocument entryId, .deleteTags entryId]

/-- The statement of `set_active_favorite_tag` and `set_temp_favorite_tag`. -/
def favoriteStatements (entryId : EntryId) (favorited : Bool) :
    List Statement :=
  if favorited then
    [.putTag entryId TagId.favorited]
  else
    [.deleteTag entryId TagId.favorited]

inductive IndexWrite where
  | indexEntry (document : SearchDocument) (postings : List SearchPosting)
  | removeEntry (entryId : EntryId)
  | setEntryFavoriteTag (entryId : EntryId) (favorited : Bool)
  deriving DecidableEq, Repr

namespace IndexWrite

def statements : IndexWrite → List Statement
  | indexEntry document postings => entryStatements document postings
  | removeEntry entryId => deleteStatements entryId
  | setEntryFavoriteTag entryId favorited =>
      favoriteStatements entryId favorited

/-- The write to the active tables.  Setting a tag that is there already is
no conflict. -/
def writeActive (write : IndexWrite) (active : Generation) :
    Option Generation :=
  match write with
  | indexEntry document postings =>
      runTransaction (entryStatements document postings) active
  | removeEntry entryId =>
      some ((deleteStatements entryId).foldl Statement.perform active)
  | setEntryFavoriteTag entryId favorited =>
      some ((favoriteStatements entryId favorited).foldl
        Statement.perform active)

end IndexWrite

/-! ## Cells -/

/-- A key of one of the tables. -/
inductive Cell where
  | document (entryId : EntryId)
  | posting (entryId : EntryId) (termTag : List UInt8)
  | tag (entryId : EntryId) (tagId : TagId)
  deriving DecidableEq, Repr

inductive CellRow where
  | document (row : SearchDocumentRow)
  | posting (row : SearchPostingRow)
  | tag
  deriving DecidableEq, Repr

def Generation.read (generation : Generation) : Cell → Option CellRow
  | .document entryId => (generation.documents.find entryId).map .document
  | .posting entryId termTag =>
      (generation.postings.find (entryId, termTag)).map .posting
  | .tag entryId tagId =>
      (generation.entryTags.find (entryId, tagId)).map fun _ => .tag

/-- What a statement puts into a cell, whatever the tables hold. -/
def Statement.effect : Statement → Cell → Option (Option CellRow)
  | .deletePostings entryId, .posting other _ =>
      if other = entryId then some none else none
  | .putDocument row, .document other =>
      if other = row.entryId then some (some (.document row)) else none
  | .putPosting entryId termTag row, .posting other otherTag =>
      if (other, otherTag) = (entryId, termTag) then
        some (some (.posting row))
      else
        none
  | .deleteDocument entryId, .document other =>
      if other = entryId then some none else none
  | .deleteTags entryId, .tag other _ =>
      if other = entryId then some none else none
  | .putTag entryId tagId, .tag other otherTag =>
      if (other, otherTag) = (entryId, tagId) then some (some .tag) else none
  | .deleteTag entryId tagId, .tag other otherTag =>
      if (other, otherTag) = (entryId, tagId) then some none else none
  | _, _ => none

@[simp]
theorem Generation.read_empty (cell : Cell) :
    Generation.empty.read cell = none := by
  cases cell <;> simp [Generation.read, Generation.empty]

theorem Statement.read_perform (generation : Generation)
    (statement : Statement) (cell : Cell) :
    (statement.perform generation).read cell =
      (statement.effect cell).getD (generation.read cell) := by
  cases statement <;> cases cell <;>
    simp only [Statement.perform, Statement.effect, Generation.read,
      Table.find_removeWhere, Table.find_put, Table.find_remove,
      Option.getD_none, decide_eq_true_eq] <;>
    split <;> simp

/-- The statements as blind writes to the cells of a generation. -/
def indexWrites : BlindWrites Generation Statement Cell (Option CellRow) where
  read := Generation.read
  perform := Statement.perform
  effect := Statement.effect
  read_perform := Statement.read_perform

theorem runTransaction_eq_replay {statements : List Statement}
    {active written : Generation}
    (committed : runTransaction statements active = some written) :
    written = indexWrites.replay statements active := by
  induction statements generalizing active with
  | nil =>
      cases committed
      rfl
  | cons statement rest inductionHypothesis =>
      unfold runTransaction at committed
      split at committed
      · cases committed
      · exact inductionHypothesis committed

theorem IndexWrite.writeActive_eq_replay {write : IndexWrite}
    {active written : Generation}
    (committed : write.writeActive active = some written) :
    written = indexWrites.replay write.statements active := by
  cases write with
  | indexEntry document postings => exact runTransaction_eq_replay committed
  | removeEntry entryId =>
      cases committed
      rfl
  | setEntryFavoriteTag entryId favorited =>
      cases committed
      rfl

end OpenClipboard.Search
