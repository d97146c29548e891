import OpenClipboard.Search.TimePresets

/-!
# The two paths of a filter

A search without keywords filters in SQL; one with keywords loads the rows of
its candidates and filters them in memory.  Both read the extensions of a row
from JSON, each with a reader and a lower case of its own.
-/

namespace OpenClipboard.SearchFilters

open Search

structure DocumentRow where
  profileId : String
  entryId : String
  activeTimeMs : Int
  capturedAtMs : Int
  fileType : String
  fileExtensions : String
  sourceDevice : Option String
  deriving DecidableEq, Repr

structure PostingRow where
  profileId : String
  entryId : String
  termTag : List UInt8
  deriving DecidableEq, Repr

structure EntryTagRow where
  profileId : String
  entryId : String
  tagId : String
  deriving DecidableEq, Repr

structure Index where
  documents : List DocumentRow
  postings : List PostingRow
  entryTags : List EntryTagRow
  primaryKey :
    (documents.map fun row => (row.profileId, row.entryId)).Nodup

/-- The filters of a query; the content types as they are stored. -/
structure FilterParams where
  contentTypes : List String
  tags : List String
  extensions : List String
  sourceDevices : List String
  timeRange : Option TimeRangeFilter
  deriving DecidableEq, Repr

inductive QueryOperator where
  | and
  | or
  deriving DecidableEq, Repr

structure SearchPage where
  rows : List DocumentRow
  total : Nat
  hasMore : Bool
  deriving DecidableEq, Repr

/-- SQLite's `lower()`: it changes ASCII letters only. -/
def asciiLower (value : String) : String :=
  String.ofList (value.toList.map Char.toLower)

/-- The libraries.  `jsonEach` gives the values of a JSON text, a NULL as
`none`, and fails on what is not JSON; `evaluates` tells on which of the rows
that another test rejects SQLite evaluates the extensions too. -/
structure Libraries where
  chrono : Chrono
  toLowercase : String → String
  toString : List String → String
  fromStr : String → Option (List String)
  jsonEach : String → Option (List (Option String))
  evaluates : DocumentRow → Bool
  orderByActiveTimeDesc : List DocumentRow → List DocumentRow
  maxVariables : Nat
  toLowercase_idem : ∀ value,
    toLowercase (toLowercase value) = toLowercase value
  toLowercase_ascii : ∀ value,
    toLowercase (asciiLower value) = toLowercase value
  fromStr_toString : ∀ strings, fromStr (toString strings) = some strings
  jsonEach_fromStr : ∀ text strings, fromStr text = some strings →
    jsonEach text = some (strings.map some)
  ordered : ∀ rows, (orderByActiveTimeDesc rows).Perm rows

/-- The bounds are cast to `i64`. -/
def asI64 (bound : Nat) : Int := (bound : Int).bmod 18446744073709551616

section Paths

variable (lib : Libraries) (index : Index) (profileId : String)
variable (filters : FilterParams) (nowMs : Int)

/-- `search` lowers the extensions of the query once. -/
def FilterParams.lowered (filters : FilterParams) : FilterParams :=
  { filters with extensions := filters.extensions.map lib.toLowercase }

def timeBounds : Option (Int × Int) :=
  filters.timeRange.map fun timeRange =>
    (asI64 (resolveTimeRange lib.chrono nowMs timeRange).1,
      asI64 (resolveTimeRange lib.chrono nowMs timeRange).2)

def page (rows : List DocumentRow) (limit offset : Nat) : SearchPage where
  rows := (rows.drop offset).take limit
  total := rows.length % 4294967296
  hasMore := offset % 4294967296 + ((rows.drop offset).take limit).length %
    4294967296 < rows.length % 4294967296

/-! ## Without keywords -/

def filterBinds : Nat :=
  filters.sourceDevices.length +
    (if filters.tags.isEmpty then 0 else 1 + filters.tags.length) +
    (if filters.timeRange.isSome then 2 else 0) +
    filters.contentTypes.length +
    (if filters.extensions.isEmpty then 0 else 1)

/-- The terms of the `WHERE` clause but the one on the extensions. -/
def whereClause (row : DocumentRow) : Bool :=
  (filters.sourceDevices.isEmpty ||
    row.sourceDevice.any fun device => device ∈ filters.sourceDevices) &&
  (filters.tags.isEmpty || row.entryId ∈
    (index.entryTags.filter fun tag =>
      tag.profileId = profileId ∧ tag.tagId ∈ filters.tags).map
        EntryTagRow.entryId) &&
  (match timeBounds lib filters nowMs with
    | some (fromMs, toMs) => fromMs ≤ row.activeTimeMs ∧ row.activeTimeMs ≤ toMs
    | none => True) &&
  (filters.contentTypes.isEmpty || row.fileType ∈ filters.contentTypes)

/-- `EXISTS`, of two `json_each`; `none` where one of them fails. -/
def existsExtension (extJson : String) (row : DocumentRow) : Option Bool :=
  match lib.jsonEach row.fileExtensions, lib.jsonEach extJson with
  | some stored, some queried =>
      some (stored.any fun de => queried.any fun qe =>
        match de, qe with
        | some value, some wanted => asciiLower value = wanted
        | _, _ => false)
  | _, _ => none

def selectRows : Except String (List DocumentRow) :=
  let rows := index.documents.filter fun row => row.profileId = profileId
  let passes := whereClause lib index profileId filters nowMs
  if filters.extensions.isEmpty then .ok (rows.filter passes)
  else
    let exists_ := existsExtension lib (lib.toString filters.extensions)
    if rows.any fun row =>
        (passes row || lib.evaluates row) && (exists_ row).isNone then
      .error "malformed JSON"
    else .ok (rows.filter fun row => passes row && exists_ row = some true)

/-- One page of a search without keywords: a count, then the rows. -/
def filterOnlyPage (limit offset : Nat) : Except String SearchPage :=
  if lib.maxVariables < 1 + filterBinds filters + 2 then
    .error "too many SQL variables"
  else
    match selectRows lib index profileId filters nowMs with
    | .error message => .error message
    | .ok rows => .ok (page (lib.orderByActiveTimeDesc rows) limit offset)

/-! ## With keywords -/

/-- The entries that match the terms, with the number of terms each matches. -/
def queryCandidateHits (termTags : List (List UInt8))
    (operator : QueryOperator) : List (String × Nat) :=
  let matching := index.postings.filter fun posting =>
    posting.profileId = profileId ∧ posting.termTag ∈ termTags
  let counted := (matching.map PostingRow.entryId).dedup.map fun entryId =>
    (entryId, ((matching.filter fun posting =>
      posting.entryId = entryId).map PostingRow.termTag).dedup.length)
  counted.filter fun hit =>
    match operator with
    | .and => hit.2 = termTags.length
    | .or => 1 ≤ hit.2

/-- The row passes the filters that are applied in memory. -/
def keepsRow (row : DocumentRow) : Bool :=
  (if filters.sourceDevices.isEmpty then true
    else match row.sourceDevice with
      | some device => device ∈ filters.sourceDevices
      | none => false) &&
  (if filters.tags.isEmpty then true
    else row.entryId ∈ (index.entryTags.filter fun tag =>
      tag.profileId = profileId ∧ tag.tagId ∈ filters.tags).map
        EntryTagRow.entryId) &&
  (match filters.timeRange with
    | some timeRange =>
        !(row.activeTimeMs <
            asI64 (resolveTimeRange lib.chrono nowMs timeRange).1 ||
          asI64 (resolveTimeRange lib.chrono nowMs timeRange).2 <
            row.activeTimeMs)
    | none => true) &&
  (filters.contentTypes.isEmpty ||
    filters.contentTypes.any fun fileType => fileType = row.fileType) &&
  (if filters.extensions.isEmpty then true
    else
      let docExts := ((lib.fromStr row.fileExtensions).getD []).map
        lib.toLowercase
      filters.extensions.any fun ext => ext ∈ docExts)

/-- Active time, then hits, then capture time, each descending. -/
def ranksBefore (left right : DocumentRow × Nat) : Bool :=
  if left.1.activeTimeMs ≠ right.1.activeTimeMs then
    right.1.activeTimeMs < left.1.activeTimeMs
  else if left.2 ≠ right.2 then right.2 < left.2
  else right.1.capturedAtMs ≤ left.1.capturedAtMs

/-- One page of a search with keywords; each statement binds the profile
first. -/
def termPage (termTags : List (List UInt8)) (operator : QueryOperator)
    (limit offset : Nat) : Except String SearchPage :=
  if lib.maxVariables < 1 + termTags.length then
    .error "posting query failed: too many SQL variables"
  else
    let hits := queryCandidateHits index profileId termTags operator
    if hits.isEmpty then .ok ⟨[], 0, false⟩
    else if lib.maxVariables < 1 + hits.length then
      .error "load_candidate_documents failed: too many SQL variables"
    else if filters.tags.isEmpty = false ∧
        lib.maxVariables < 1 + filters.tags.length then
      .error "load_entry_ids_for_tags failed: too many SQL variables"
    else
      let docs := index.documents.filter fun row =>
        row.profileId = profileId ∧ row.entryId ∈ hits.map Prod.fst
      let filtered := docs.filter (keepsRow lib index profileId filters nowMs)
      let ranked := (filtered.map fun row =>
        (row, ((hits.find? fun hit => hit.1 = row.entryId).map
          Prod.snd).getD 0)).mergeSort ranksBefore
      .ok (page (ranked.map Prod.fst) limit offset)

end Paths

end OpenClipboard.SearchFilters
