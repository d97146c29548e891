import OpenClipboard.Library.TextCode
import OpenClipboard.Search.FilterPaths

/-!
# Where the two paths agree

A query whose keywords match every document selects what the filters alone
select, as long as SQLite runs the statements and the stored extensions read
alike in SQL and in memory.
-/

namespace OpenClipboard.SearchFilters

open Search

section Agreement

variable (lib : Libraries) (index : Index) (profileId : String)
variable (query : FilterParams) (nowMs : Int)
variable (termTags : List (List UInt8)) (operator : QueryOperator)

/-- Both paths answer, with the same entries on a page that holds them all. -/
def SelectAlike : Prop :=
  ∃ browsed ranked,
    filterOnlyPage lib index profileId (query.lowered lib) nowMs
      index.documents.length 0 = .ok browsed ∧
    termPage lib index profileId (query.lowered lib) nowMs termTags operator
      index.documents.length 0 = .ok ranked ∧
    ∀ entryId, entryId ∈ browsed.rows.map DocumentRow.entryId ↔
      entryId ∈ ranked.rows.map DocumentRow.entryId

/-- The keywords match every document of the profile. -/
def MatchesAll : Prop :=
  ∀ row ∈ index.documents, row.profileId = profileId →
    row.entryId ∈ (queryCandidateHits index profileId termTags
      operator).map Prod.fst

/-- No statement binds more values than SQLite takes. -/
structure StatementsFit : Prop where
  browse : 1 + filterBinds (query.lowered lib) + 2 ≤ lib.maxVariables
  terms : 1 + termTags.length ≤ lib.maxVariables
  candidates : 1 + (queryCandidateHits index profileId termTags
    operator).length ≤ lib.maxVariables

/-- The stored extensions of a row read alike.  Those that are no list of
texts contain nothing that is queried; in a list, what is queried is also
spelled with ASCII capitals only. -/
def ExtensionsReadAlike (queried : List String) (row : DocumentRow) : Prop :=
  match lib.fromStr row.fileExtensions with
  | none => ∀ values, lib.jsonEach row.fileExtensions = some values →
      ∀ value, some value ∈ values → asciiLower value ∉ queried
  | some exts => (∃ ext ∈ exts, lib.toLowercase ext ∈ queried) →
      ∃ ext ∈ exts, lib.toLowercase ext ∈ queried ∧
        asciiLower ext = lib.toLowercase ext

/-- What the rows of the profile need where extensions are queried: wherever
SQLite looks at them they are JSON, and on a row that passes the other filters
they read alike. -/
def ExtensionsFit : Prop :=
  query.extensions ≠ [] →
    ∀ row ∈ index.documents, row.profileId = profileId →
      let passes := whereClause lib index profileId (query.lowered lib) nowMs
      ((passes row = true ∨ lib.evaluates row = true) →
        lib.jsonEach row.fileExtensions ≠ none) ∧
      (passes row = true →
        ExtensionsReadAlike lib (query.extensions.map lib.toLowercase) row)

end Agreement

section Rows

variable {lib : Libraries} {index : Index} {profileId : String}
variable {filters : FilterParams} {nowMs : Int}

theorem page_rows {rows : List DocumentRow} {limit : Nat}
    (fits : rows.length ≤ limit) : (page rows limit 0).rows = rows := by
  unfold page
  simp only [List.drop_zero]
  exact List.take_of_length_le fits

/-! ## One row -/

/-- The extensions of a row, as they are read in memory, meet the queried. -/
def keepsExtensions (lib : Libraries) (queried : List String)
    (row : DocumentRow) : Bool :=
  queried.any fun ext =>
    ext ∈ ((lib.fromStr row.fileExtensions).getD []).map lib.toLowercase

theorem keepsRow_eq (row : DocumentRow) :
    keepsRow lib index profileId filters nowMs row =
      (whereClause lib index profileId filters nowMs row &&
        (filters.extensions.isEmpty ||
          keepsExtensions lib filters.extensions row)) := by
  unfold keepsRow whereClause
  -- One filter after the other, the extensions last.
  refine congrArg₂ and (congrArg₂ and (congrArg₂ and (congrArg₂ and
    ?devices ?tags) ?times) ?types) ?extensions
  case devices =>
    cases filters.sourceDevices.isEmpty <;> cases row.sourceDevice <;> rfl
  case tags =>
    cases filters.tags.isEmpty <;> rfl
  case times =>
    unfold timeBounds
    cases filters.timeRange with
    | none => rfl
    | some timeRange =>
        rw [Bool.eq_iff_iff]
        simp
  case types =>
    rw [Bool.eq_iff_iff]
    simp
  case extensions =>
    cases filters.extensions.isEmpty <;> rfl

theorem keepsExtensions_iff {queried : List String} {row : DocumentRow} :
    keepsExtensions lib queried row = true ↔
      ∃ ext ∈ (lib.fromStr row.fileExtensions).getD [],
        lib.toLowercase ext ∈ queried := by
  simp only [keepsExtensions, List.any_eq_true, decide_eq_true_eq,
    List.mem_map]
  constructor
  · rintro ⟨_, isQueried, ext, stored, rfl⟩
    exact ⟨ext, stored, isQueried⟩
  · rintro ⟨ext, stored, isQueried⟩
    exact ⟨_, isQueried, ext, stored, rfl⟩

theorem existsExtension_iff {queried : List String} {row : DocumentRow}
    {values : List (Option String)}
    (isJson : lib.jsonEach row.fileExtensions = some values) :
    existsExtension lib (lib.toString queried) row = some true ↔
      ∃ text, some text ∈ values ∧ asciiLower text ∈ queried := by
  have read : lib.jsonEach (lib.toString queried) =
      some (queried.map some) :=
    lib.jsonEach_fromStr _ _ (lib.fromStr_toString queried)
  simp only [existsExtension, isJson, read, Option.some.injEq,
    List.any_eq_true]
  constructor
  · rintro ⟨value, stored, wanted, isWanted, same⟩
    obtain ⟨ext, isQueried, rfl⟩ := List.mem_map.mp isWanted
    cases value with
    | none => cases same
    | some text =>
        have isExt : asciiLower text = ext := of_decide_eq_true same
        exact ⟨text, stored, isExt ▸ isQueried⟩
  · rintro ⟨text, stored, isQueried⟩
    refine ⟨some text, stored, some (asciiLower text), ?_, ?_⟩
    · exact List.mem_map_of_mem isQueried
    · exact decide_eq_true rfl

theorem existsExtension_eq_none_iff {queried : List String}
    {row : DocumentRow} :
    existsExtension lib (lib.toString queried) row = none ↔
      lib.jsonEach row.fileExtensions = none := by
  have read : lib.jsonEach (lib.toString queried) =
      some (queried.map some) :=
    lib.jsonEach_fromStr _ _ (lib.fromStr_toString queried)
  unfold existsExtension
  rw [read]
  cases lib.jsonEach row.fileExtensions with
  | none => exact iff_of_true rfl rfl
  | some values => exact iff_of_false (by simp) (by simp)

theorem toLowercase_of_asciiLower {extensions : List String} {text : String}
    (isQueried : asciiLower text ∈ extensions.map lib.toLowercase) :
    asciiLower text = lib.toLowercase text := by
  obtain ⟨ext, _, isLower⟩ := List.mem_map.mp isQueried
  rw [← lib.toLowercase_ascii text, ← isLower, lib.toLowercase_idem]

theorem readAlike_iff {extensions : List String} {row : DocumentRow}
    {values : List (Option String)}
    (isJson : lib.jsonEach row.fileExtensions = some values) :
    (existsExtension lib (lib.toString (extensions.map lib.toLowercase)) row =
        some true ↔
      keepsExtensions lib (extensions.map lib.toLowercase) row = true) ↔
      ExtensionsReadAlike lib (extensions.map lib.toLowercase) row := by
  rw [existsExtension_iff isJson, keepsExtensions_iff]
  unfold ExtensionsReadAlike
  cases isList : lib.fromStr row.fileExtensions with
  | none =>
      simp only [Option.getD_none, List.not_mem_nil, false_and, exists_false,
        iff_false, not_exists, not_and]
      constructor
      · intro unqueried values' isJson' text stored
        have same := Option.some.inj (isJson.symm.trans isJson')
        exact unqueried text (same ▸ stored)
      · exact fun unqueried text stored => unqueried values isJson text stored
  | some exts =>
      have isValues := lib.jsonEach_fromStr _ _ isList
      rw [isJson] at isValues
      have sameValues := Option.some.inj isValues
      simp only [Option.getD_some]
      constructor
      · intro same inMemory
        obtain ⟨text, stored, isQueried⟩ := same.mpr inMemory
        rw [sameValues] at stored
        obtain ⟨ext, listed, isText⟩ := List.mem_map.mp stored
        rw [← Option.some.inj isText] at isQueried
        have isLower := toLowercase_of_asciiLower isQueried
        exact ⟨ext, listed, isLower ▸ isQueried, isLower⟩
      · intro alike
        constructor
        · rintro ⟨text, stored, isQueried⟩
          rw [sameValues] at stored
          obtain ⟨ext, listed, isText⟩ := List.mem_map.mp stored
          rw [← Option.some.inj isText] at isQueried
          have isLower := toLowercase_of_asciiLower isQueried
          exact ⟨ext, listed, isLower ▸ isQueried⟩
        · intro inMemory
          obtain ⟨ext, listed, isQueried, isLower⟩ := alike inMemory
          refine ⟨ext, ?_, isLower ▸ isQueried⟩
          rw [sameValues]
          exact List.mem_map_of_mem listed

/-! ## A page of each path -/

/-- The rows of the profile that pass the filters other than the one on
extensions. -/
def Passes (lib : Libraries) (index : Index) (profileId : String)
    (filters : FilterParams) (nowMs : Int) (row : DocumentRow) : Prop :=
  row ∈ index.documents ∧ row.profileId = profileId ∧
    whereClause lib index profileId filters nowMs row = true

/-- Wherever SQLite looks at the extensions they are JSON. -/
def Readable (lib : Libraries) (index : Index) (profileId : String)
    (filters : FilterParams) (nowMs : Int) : Prop :=
  filters.extensions ≠ [] → ∀ row ∈ index.documents,
    row.profileId = profileId →
    whereClause lib index profileId filters nowMs row = true ∨
      lib.evaluates row = true →
    existsExtension lib (lib.toString filters.extensions) row ≠ none

theorem mem_profileRows {row : DocumentRow} :
    row ∈ index.documents.filter (fun row => row.profileId = profileId) ↔
      row ∈ index.documents ∧ row.profileId = profileId := by
  rw [List.mem_filter, decide_eq_true_eq]

theorem selectRows_spec :
    (Readable lib index profileId filters nowMs →
      ∃ rows, selectRows lib index profileId filters nowMs = .ok rows) ∧
    ∀ rows, selectRows lib index profileId filters nowMs = .ok rows →
      Readable lib index profileId filters nowMs ∧
        rows.length ≤ index.documents.length ∧
        ∀ row, row ∈ rows ↔
          Passes lib index profileId filters nowMs row ∧
            (filters.extensions ≠ [] → existsExtension lib
              (lib.toString filters.extensions) row = some true) := by
  unfold selectRows
  simp only
  by_cases noExtensions : filters.extensions = []
  · rw [if_pos (by rw [noExtensions]; rfl)]
    refine ⟨fun _ => ⟨_, rfl⟩, ?_⟩
    intro rows selected
    rw [← Except.ok.inj selected]
    refine ⟨fun queried => absurd noExtensions queried, ?_, ?_⟩
    · exact (List.length_filter_le _ _).trans (List.length_filter_le _ _)
    · intro row
      rw [List.mem_filter, mem_profileRows, and_assoc]
      exact (and_iff_left fun queried => absurd noExtensions queried).symm
  · have queried : ¬(filters.extensions.isEmpty = true) := by
      rw [List.isEmpty_iff]
      exact noExtensions
    rw [if_neg queried]
    by_cases malformed : ((index.documents.filter fun row =>
        row.profileId = profileId).any fun row =>
          (whereClause lib index profileId filters nowMs row ||
            lib.evaluates row) && (existsExtension lib
              (lib.toString filters.extensions) row).isNone) = true
    · rw [if_pos malformed]
      constructor
      · intro readable
        obtain ⟨row, isRow, looked⟩ := List.any_eq_true.mp malformed
        rw [mem_profileRows] at isRow
        simp only [Bool.and_eq_true, Bool.or_eq_true,
          Option.isNone_iff_eq_none] at looked
        exact absurd looked.2
          (readable noExtensions row isRow.1 isRow.2 looked.1)
      · intro rows selected
        cases selected
    · rw [if_neg malformed]
      refine ⟨fun _ => ⟨_, rfl⟩, ?_⟩
      intro rows selected
      rw [← Except.ok.inj selected]
      refine ⟨?_, ?_, ?_⟩
      · intro _ row isRow isProfile looked isNone
        apply malformed
        apply List.any_eq_true.mpr
        refine ⟨row, mem_profileRows.mpr ⟨isRow, isProfile⟩, ?_⟩
        simp [looked, isNone]
      · exact (List.length_filter_le _ _).trans (List.length_filter_le _ _)
      · intro row
        rw [List.mem_filter, mem_profileRows]
        simp only [Passes, Bool.and_eq_true, decide_eq_true_eq, ne_eq,
          noExtensions, not_false_eq_true, forall_const, and_assoc]

theorem filterOnlyPage_ok
    (fits : 1 + filterBinds filters + 2 ≤ lib.maxVariables)
    (readable : Readable lib index profileId filters nowMs) :
    ∃ browsed, filterOnlyPage lib index profileId filters nowMs
      index.documents.length 0 = .ok browsed := by
  obtain ⟨rows, selected⟩ := selectRows_spec.1 readable
  unfold filterOnlyPage
  rw [if_neg (by omega), selected]
  exact ⟨_, rfl⟩

theorem filterOnlyPage_spec {browsed : SearchPage}
    (answered : filterOnlyPage lib index profileId filters nowMs
      index.documents.length 0 = .ok browsed) :
    1 + filterBinds filters + 2 ≤ lib.maxVariables ∧
      Readable lib index profileId filters nowMs ∧
      ∀ row, row ∈ browsed.rows ↔
        Passes lib index profileId filters nowMs row ∧
          (filters.extensions ≠ [] → existsExtension lib
            (lib.toString filters.extensions) row = some true) := by
  unfold filterOnlyPage at answered
  by_cases tooMany : lib.maxVariables < 1 + filterBinds filters + 2
  · rw [if_pos tooMany] at answered
    cases answered
  · rw [if_neg tooMany] at answered
    cases selected : selectRows lib index profileId filters nowMs with
    | error message =>
        rw [selected] at answered
        cases answered
    | ok rows =>
        rw [selected] at answered
        have isPage := Except.ok.inj answered
        obtain ⟨readable, short, isSelected⟩ := selectRows_spec.2 rows selected
        have ordered := lib.ordered rows
        refine ⟨by omega, readable, ?_⟩
        intro row
        rw [← isPage, page_rows (by rw [ordered.length_eq]; exact short),
          ordered.mem_iff]
        exact isSelected row

/-! ## The keyword path -/

theorem tags_fit (fits : 1 + filterBinds filters + 2 ≤ lib.maxVariables) :
    ¬(filters.tags.isEmpty = false ∧
      lib.maxVariables < 1 + filters.tags.length) := by
  rintro ⟨someTags, tooMany⟩
  unfold filterBinds at fits
  rw [someTags] at fits
  simp only [Bool.false_eq_true, if_false] at fits
  omega

variable {termTags : List (List UInt8)} {operator : QueryOperator}

theorem termPage_fits {ranked : SearchPage} {limit offset : Nat}
    (answered : termPage lib index profileId filters nowMs termTags operator
      limit offset = .ok ranked) :
    1 + termTags.length ≤ lib.maxVariables ∧
      1 + (queryCandidateHits index profileId termTags operator).length ≤
        lib.maxVariables := by
  unfold termPage at answered
  by_cases tooManyTerms : lib.maxVariables < 1 + termTags.length
  · rw [if_pos tooManyTerms] at answered
    cases answered
  · rw [if_neg tooManyTerms] at answered
    simp only at answered
    refine ⟨by omega, ?_⟩
    by_cases noHits : (queryCandidateHits index profileId termTags
        operator).isEmpty = true
    · rw [List.isEmpty_iff.mp noHits]
      simp only [List.length_nil]
      omega
    · rw [if_neg noHits] at answered
      by_contra tooMany
      rw [if_pos (by omega)] at answered
      cases answered

theorem ranked_perm (rows : List DocumentRow) (hits : List (String × Nat)) :
    (((rows.map fun row => (row, ((hits.find? fun hit =>
      hit.1 = row.entryId).map Prod.snd).getD 0)).mergeSort
        ranksBefore).map Prod.fst).Perm rows := by
  have sorted := (List.mergeSort_perm (rows.map fun row => (row,
    ((hits.find? fun hit => hit.1 = row.entryId).map Prod.snd).getD 0))
      ranksBefore).map Prod.fst
  rw [List.map_map] at sorted
  have sameRows : (rows.map (Prod.fst ∘ fun row => (row,
      ((hits.find? fun hit => hit.1 = row.entryId).map Prod.snd).getD 0))) =
        rows := List.map_id rows
  rw [sameRows] at sorted
  exact sorted

theorem termPage_ok (lib : Libraries) (filters : FilterParams) (nowMs : Int)
    (matchesAll : MatchesAll index profileId termTags operator)
    (fits : 1 + filterBinds filters + 2 ≤ lib.maxVariables)
    (terms : 1 + termTags.length ≤ lib.maxVariables)
    (candidates : 1 + (queryCandidateHits index profileId termTags
      operator).length ≤ lib.maxVariables) :
    ∃ ranked, termPage lib index profileId filters nowMs termTags operator
        index.documents.length 0 = .ok ranked ∧
      ∀ row, row ∈ ranked.rows ↔
        Passes lib index profileId filters nowMs row ∧
          (filters.extensions ≠ [] →
            keepsExtensions lib filters.extensions row = true) := by
  unfold termPage
  rw [if_neg (by omega)]
  simp only
  by_cases noHits : (queryCandidateHits index profileId termTags
      operator).isEmpty = true
  · rw [if_pos noHits]
    refine ⟨_, rfl, ?_⟩
    intro row
    apply iff_of_false List.not_mem_nil
    intro passes
    have matched := matchesAll row passes.1.1 passes.1.2.1
    rw [List.isEmpty_iff.mp noHits] at matched
    cases matched
  · rw [if_neg noHits, if_neg (by omega), if_neg (tags_fit fits)]
    refine ⟨_, rfl, ?_⟩
    intro row
    rw [page_rows, (ranked_perm _ _).mem_iff, List.mem_filter,
      List.mem_filter, keepsRow_eq]
    · simp only [Passes, decide_eq_true_eq, Bool.and_eq_true, Bool.or_eq_true,
        List.isEmpty_iff]
      constructor
      · rintro ⟨⟨isRow, isProfile, _⟩, passes, extensions⟩
        refine ⟨⟨isRow, isProfile, passes⟩, ?_⟩
        intro queried
        rcases extensions with isNone | kept
        · exact absurd isNone queried
        · exact kept
      · rintro ⟨⟨isRow, isProfile, passes⟩, extensions⟩
        refine ⟨⟨isRow, isProfile, matchesAll row isRow isProfile⟩, passes, ?_⟩
        by_cases isNone : filters.extensions = []
        · exact Or.inl isNone
        · exact Or.inr (extensions isNone)
    · rw [(ranked_perm _ _).length_eq]
      exact (List.length_filter_le _ _).trans (List.length_filter_le _ _)

theorem eq_of_entryId {left right : DocumentRow}
    (isLeft : left ∈ index.documents) (isRight : right ∈ index.documents)
    (sameProfile : left.profileId = right.profileId)
    (sameEntry : left.entryId = right.entryId) : left = right := by
  have sameKey : (left.profileId, left.entryId) =
      (right.profileId, right.entryId) := by
    rw [sameProfile, sameEntry]
  exact List.inj_on_of_nodup_map index.primaryKey isLeft isRight sameKey

theorem mem_of_sameEntries {rows others : List DocumentRow}
    (arePassing : ∀ row ∈ others,
      Passes lib index profileId filters nowMs row)
    (same : ∀ entryId, entryId ∈ rows.map DocumentRow.entryId →
      entryId ∈ others.map DocumentRow.entryId)
    {row : DocumentRow} (passes : Passes lib index profileId filters nowMs row)
    (isRow : row ∈ rows) : row ∈ others := by
  obtain ⟨other, isOther, sameEntry⟩ :=
    List.mem_map.mp (same row.entryId (List.mem_map_of_mem isRow))
  have otherPasses := arePassing other isOther
  have sameProfile : other.profileId = row.profileId := by
    rw [otherPasses.2.1, passes.2.1]
  rw [← eq_of_entryId otherPasses.1 passes.1 sameProfile sameEntry]
  exact isOther

end Rows

/-! ## A capital outside ASCII -/

namespace Sample

def lowerChar (c : Char) : Char := if c = 'É' then 'é' else c.toLower

def toLowercase (text : String) : String :=
  String.ofList (text.toList.map lowerChar)

theorem lowerChar_toLower (c : Char) : lowerChar c.toLower = lowerChar c := by
  unfold lowerChar
  by_cases isCapital : c = 'É'
  · rw [isCapital]
    decide
  · have stays : c.toLower ≠ 'É' := by
      intro isLower
      have notLetter : 'É'.isAlpha = c.isAlpha := by
        rw [← isLower, Char.isAlpha_toLower_eq_isAlpha]
      have notUpper : ¬(c.isUpper = true) := by
        intro isUpper
        have isAlpha : c.isAlpha = true := by
          rw [Char.isAlpha, isUpper]
          rfl
        rw [isAlpha] at notLetter
        exact absurd notLetter (by decide)
      rw [Char.toLower_eq_of_not_isUpper notUpper] at isLower
      exact isCapital isLower
    rw [if_neg isCapital, if_neg stays, Char.toLower_toLower_eq_toLower]

theorem lowerChar_idem (c : Char) : lowerChar (lowerChar c) = lowerChar c := by
  by_cases isCapital : c = 'É'
  · rw [isCapital]
    decide
  · have isLower : lowerChar c = c.toLower := if_neg isCapital
    rw [isLower, lowerChar_toLower, isLower]

/-- The text of a list: JSON for one list, and that many spaces for the
others. -/
def toText (strings : List String) : String :=
  if strings = ["é"] then "[\"é\"]"
  else String.ofList (List.replicate (Encodable.encode strings) ' ')

def fromText (text : String) : Option (List String) :=
  if text = "[\"é\"]" then some ["é"]
  else if text = "[\"É\"]" then some ["É"]
  else Encodable.decode text.length

theorem fromText_toText (strings : List String) :
    fromText (toText strings) = some strings := by
  unfold toText
  by_cases isSample : strings = ["é"]
  · rw [if_pos isSample, isSample]
    decide +kernel
  · have blank : ∀ c ∈ (String.ofList (List.replicate
        (Encodable.encode strings) ' ')).toList, c = ' ' := by
      intro c member
      rw [String.toList_ofList] at member
      exact List.eq_of_mem_replicate member
    have notJson : ∀ text : String, '[' ∈ text.toList →
        String.ofList (List.replicate (Encodable.encode strings) ' ') ≠
          text := by
      intro text opens isText
      rw [← isText] at opens
      exact absurd (blank '[' opens) (by decide)
    unfold fromText
    rw [if_neg isSample, if_neg (notJson _ (by decide)),
      if_neg (notJson _ (by decide)), String.length_ofList,
      List.length_replicate, Encodable.encodek]

def library : Libraries where
  chrono := Chrono.gregorian
  toLowercase := toLowercase
  toString := toText
  fromStr := fromText
  jsonEach text := (fromText text).map fun strings => strings.map some
  evaluates _ := true
  orderByActiveTimeDesc rows :=
    rows.mergeSort fun left right => right.activeTimeMs ≤ left.activeTimeMs
  maxVariables := 32766
  toLowercase_idem value := by
    simp [toLowercase, Function.comp_def, lowerChar_idem]
  toLowercase_ascii value := by
    simp [toLowercase, asciiLower, Function.comp_def, lowerChar_toLower]
  fromStr_toString := fromText_toText
  jsonEach_fromStr text strings isList := by
    rw [isList]
    rfl
  ordered rows := List.mergeSort_perm rows _

def row : DocumentRow where
  profileId := "default"
  entryId := "photo"
  activeTimeMs := 1700000000000
  capturedAtMs := 1700000000000
  fileType := "image"
  fileExtensions := "[\"É\"]"
  sourceDevice := none

def index : Index where
  documents := [row]
  postings := [⟨"default", "photo", [1]⟩]
  entryTags := []
  primaryKey := by decide

def query : FilterParams where
  contentTypes := []
  tags := []
  extensions := ["É"]
  sourceDevices := []
  timeRange := none

theorem row_matches : MatchesAll index "default" [[1]] .and := by
  intro document isDocument _
  rw [List.mem_singleton.mp isDocument]
  decide +kernel

theorem row_notBrowsed :
    filterOnlyPage library index "default" (query.lowered library) 0 1 0 =
      .ok ⟨[], 0, false⟩ := by
  decide +kernel

theorem row_ranked :
    termPage library index "default" (query.lowered library) 0 [[1]] .and 1 0 =
      .ok ⟨[row], 1, false⟩ := by
  decide +kernel

end Sample

/-- A query whose keywords match everything selects what its filters select
exactly where the statements fit and the extensions do. -/
theorem selectAlike_iff {lib : Libraries} {index : Index} {profileId : String}
    {query : FilterParams} {nowMs : Int} {termTags : List (List UInt8)}
    {operator : QueryOperator}
    (matchesAll : MatchesAll index profileId termTags operator) :
    SelectAlike lib index profileId query nowMs termTags operator ↔
      StatementsFit lib index profileId query termTags operator ∧
        ExtensionsFit lib index profileId query nowMs := by
  have lowered : (query.lowered lib).extensions =
      query.extensions.map lib.toLowercase := rfl
  have isQueried : (query.lowered lib).extensions ≠ [] ↔
      query.extensions ≠ [] := by
    rw [lowered, ne_eq, List.map_eq_nil_iff]
  constructor
  · rintro ⟨browsed, ranked, browses, ranks, same⟩
    obtain ⟨browse, readable, isBrowsed⟩ := filterOnlyPage_spec browses
    obtain ⟨terms, candidates⟩ := termPage_fits ranks
    obtain ⟨page, isPage, isRanked⟩ := termPage_ok lib
      (query.lowered lib) nowMs matchesAll browse terms candidates
    rw [ranks] at isPage
    rw [← Except.ok.inj isPage] at isRanked
    refine ⟨⟨browse, terms, candidates⟩, ?_⟩
    intro queried row isRow isProfile
    have extensions := isQueried.mpr queried
    constructor
    · intro looked isNone
      apply readable extensions row isRow isProfile looked
      exact existsExtension_eq_none_iff.mpr isNone
    · intro passes
      have isPassing : Passes lib index profileId (query.lowered lib) nowMs
          row := ⟨isRow, isProfile, passes⟩
      cases isJson : lib.jsonEach row.fileExtensions with
      | none =>
          exact (readable extensions row isRow isProfile (Or.inl passes)
            (existsExtension_eq_none_iff.mpr isJson)).elim
      | some values =>
          apply (readAlike_iff isJson).mp
          rw [← lowered]
          constructor
          · intro found
            have onPage := (isBrowsed row).mpr ⟨isPassing, fun _ => found⟩
            have isKept := mem_of_sameEntries
              (fun other isOther => ((isRanked other).mp isOther).1)
              (fun entryId => (same entryId).mp) isPassing onPage
            exact ((isRanked row).mp isKept).2 extensions
          · intro kept
            have onPage := (isRanked row).mpr ⟨isPassing, fun _ => kept⟩
            have isFound := mem_of_sameEntries
              (fun other isOther => ((isBrowsed other).mp isOther).1)
              (fun entryId => (same entryId).mpr) isPassing onPage
            exact ((isBrowsed row).mp isFound).2 extensions
  · rintro ⟨fits, extensionsFit⟩
    have readable : Readable lib index profileId (query.lowered lib)
        nowMs := by
      intro queried row isRow isProfile looked isNone
      exact (extensionsFit (isQueried.mp queried) row isRow isProfile).1 looked
        (existsExtension_eq_none_iff.mp isNone)
    obtain ⟨browsed, browses⟩ := filterOnlyPage_ok fits.browse readable
    obtain ⟨ranked, ranks, isRanked⟩ := termPage_ok lib (query.lowered lib)
      nowMs matchesAll fits.browse fits.terms fits.candidates
    obtain ⟨_, _, isBrowsed⟩ := filterOnlyPage_spec browses
    refine ⟨browsed, ranked, browses, ranks, ?_⟩
    have sameRows : ∀ row, row ∈ browsed.rows ↔ row ∈ ranked.rows := by
      intro row
      rw [isBrowsed, isRanked]
      apply and_congr_right
      intro passes
      apply forall_congr'
      intro queried
      have rowFits := extensionsFit (isQueried.mp queried) row passes.1
        passes.2.1
      cases isJson : lib.jsonEach row.fileExtensions with
      | none => exact absurd isJson (rowFits.1 (Or.inl passes.2.2))
      | some values => exact (readAlike_iff isJson).mpr (rowFits.2 passes.2.2)
    intro entryId
    simp only [List.mem_map, sameRows]

theorem selectAlike_iff_sample :
    SelectAlike Sample.library Sample.index "default" Sample.query 0 [[1]]
        .and ↔
      StatementsFit Sample.library Sample.index "default" Sample.query [[1]]
          .and ∧
        ExtensionsFit Sample.library Sample.index "default" Sample.query 0 :=
  selectAlike_iff Sample.row_matches

/-- Only the keyword path finds an extension with a capital outside ASCII. -/
theorem accentedCapital_selectsApart :
    MatchesAll Sample.index "default" [[1]] .and ∧
      ¬ SelectAlike Sample.library Sample.index "default" Sample.query 0
        [[1]] .and := by
  refine ⟨Sample.row_matches, ?_⟩
  rintro ⟨browsed, ranked, browses, ranks, same⟩
  have isBrowsed := Except.ok.inj (Sample.row_notBrowsed.symm.trans browses)
  have isRanked := Except.ok.inj (Sample.row_ranked.symm.trans ranks)
  have found := (same "photo").mpr (by rw [← isRanked]; decide)
  rw [← isBrowsed] at found
  cases found

end OpenClipboard.SearchFilters
