import OpenClipboard.Search.Projection

/-!
# Live and persisted projections

The two projections of an entry scan representations of the same types; the
stored ones give what their payload state keeps inline.  The documents agree
exactly if the decisive texts and the lists read the same from both.
-/

namespace OpenClipboard.Search

open Text History

/-- What was captured and a row that stands for it in some payload state.  A
file's representation has nothing inline; the background worker changes an
image type to another. -/
structure StoredAs (toLowercase : String → String)
    (captured : ObservedClipboardRepresentation)
    (stored : PersistedClipboardRepresentation) : Prop where
  sameId : stored.id = captured.id
  sameClass : stored.mimeType = captured.mime ∨
    (classOf toLowercase stored.mimeType = .image ∧
      classOf toLowercase captured.mime = .image)
  keeps : match captured.source with
    | .inline bytes => KeepsOf bytes stored
    | .localFile _ _ => stored.inlineData = none

structure StoredCapture (toLowercase : String → String) where
  entry : ClipboardEntry
  selection : ClipboardSelection
  snapshot : SystemClipboardSnapshot
  reps : List PersistedClipboardRepresentation
  stored : List.Forall₂ (StoredAs toLowercase) snapshot.representations reps
  sourceDevice : Option String
  hasDirectory : Bool

/-- The text that the search terms of a document are made of: the plain text,
the html only without one, and the lists. -/
structure SearchableText where
  plainText : Option String
  htmlText : Option String
  uriList : List String
  filePaths : List String
  fileNames : List String
  deriving DecidableEq, Repr

def SearchPipelineInput.searchableText (input : SearchPipelineInput) :
    SearchableText where
  plainText := input.plainText
  htmlText := if input.plainText.isSome then none else input.htmlText
  uriList := input.uriList
  filePaths := input.filePaths
  fileNames := input.fileNames

/-- Both projections skip the entry, or their documents agree. -/
def ProjectionsAgree (live persisted : Option SearchPipelineInput) : Prop :=
  match live, persisted with
  | none, none => True
  | some live, some persisted =>
      live.searchableText = persisted.searchableText ∧
        live.tags = persisted.tags ∧
        live.charCount = persisted.charCount ∧
        live.fileExtensions = persisted.fileExtensions ∧
        live.linkUrls = persisted.linkUrls
  | _, _ => False

/-! ## What a scan gathers -/

variable {reps : List ScannedRep} {text : String}

section Scan

variable (urlParse : UrlParse)

def lastText (wanted : ScannedRep → Bool) (reps : List ScannedRep) :
    Option String :=
  reps.foldl (fun last rep =>
    if wanted rep then rep.text.or last else last) none

@[simp]
def isPlain (rep : ScannedRep) : Bool := rep.searchClass == .plain

@[simp]
def isHtml (rep : ScannedRep) : Bool := rep.searchClass == .html

@[simp]
def isPlainPreview (rep : ScannedRep) : Bool := isPlain rep && rep.isPreview

def allUriLines (reps : List ScannedRep) : List String :=
  reps.flatMap fun rep =>
    if rep.searchClass = .uriList then rep.uriLines else []

def isFileLine (line : String) : Bool := startsWith line "file://"

def webEntries (lines : List String) : List String :=
  lines.filter fun line => !isFileLine line

def localPaths (lines : List String) : List PathBuf :=
  (lines.filter isFileLine).filterMap (localPathOf urlParse)

@[simp]
theorem lastText_append_singleton (wanted : ScannedRep → Bool)
    (reps : List ScannedRep) (rep : ScannedRep) :
    lastText wanted (reps ++ [rep]) =
      if wanted rep then rep.text.or (lastText wanted reps)
      else lastText wanted reps := by
  simp [lastText]

@[simp]
theorem allUriLines_append_singleton (reps : List ScannedRep)
    (rep : ScannedRep) :
    allUriLines (reps ++ [rep]) = allUriLines reps ++
      if rep.searchClass = .uriList then rep.uriLines else [] := by
  simp [allUriLines]

namespace SearchableContent

theorem gather_append_singleton (reps : List ScannedRep) (rep : ScannedRep) :
    gather urlParse (reps ++ [rep]) =
      (gather urlParse reps).ingest urlParse rep := by
  simp [gather]

theorem foldl_ingestLine (lines : List String) (content : SearchableContent) :
    lines.foldl (ingestLine urlParse) content = { content with
      uriList := content.uriList ++ webEntries lines
      filePaths := content.filePaths ++
        (localPaths urlParse lines).map PathBuf.display
      fileNames := content.fileNames ++
        (localPaths urlParse lines).filterMap lossyName } := by
  induction lines generalizing content with
  | nil => simp [webEntries, localPaths]
  | cons line rest inductionHypothesis =>
      rw [List.foldl_cons, inductionHypothesis]
      unfold ingestLine
      by_cases isFile : startsWith line "file://" = true
      · rw [if_pos isFile]
        cases isLocal : localPathOf urlParse line with
        | none =>
            simp [webEntries, localPaths, isFileLine, isFile, isLocal]
        | some path =>
            cases named : lossyName path with
            | none =>
                simp [webEntries, localPaths, isFileLine, isFile, isLocal,
                  named]
            | some name =>
                simp [webEntries, localPaths, isFileLine, isFile, isLocal,
                  named]
      · rw [if_neg isFile]
        simp [webEntries, localPaths, isFileLine, isFile]

/-- The accumulators, each in terms of the representations. -/
structure GatheredFrom (reps : List ScannedRep)
    (content : SearchableContent) : Prop where
  plainText : content.plainText = lastText isPlain reps
  htmlText : content.htmlText = lastText isHtml reps
  charCount : content.charCount =
    (lastText isPlainPreview reps).map fun text => (text.length : Int)
  uriList : content.uriList = webEntries (allUriLines reps)
  filePaths : content.filePaths =
    (localPaths urlParse (allUriLines reps)).map PathBuf.display
  fileNames : content.fileNames =
    (localPaths urlParse (allUriLines reps)).filterMap lossyName
  hasImage : content.hasImage =
    reps.any fun rep => rep.searchClass == .image

theorem gatheredFrom_ingest {rep : ScannedRep} {content : SearchableContent}
    (gathered : GatheredFrom urlParse reps content) :
    GatheredFrom urlParse (reps ++ [rep]) (content.ingest urlParse rep) := by
  obtain ⟨plain, html, count, web, paths, names, image⟩ := gathered
  unfold ingest
  cases isClass : rep.searchClass with
  | uriList =>
      simp only [foldl_ingestLine]
      constructor <;>
        simp [isClass, webEntries, localPaths, plain, html, count, web, paths,
          names, image]
  | plain =>
      cases read : rep.text with
      | none =>
          constructor <;>
            simp [isClass, read, plain, html, count, web, paths, names, image]
      | some text =>
          cases isPreview : rep.isPreview <;> constructor <;>
            simp [isClass, read, isPreview, html, count, web, paths, names,
              image]
  | html =>
      cases read : rep.text with
      | none =>
          constructor <;>
            simp [isClass, read, plain, html, count, web, paths, names, image]
      | some text =>
          constructor <;>
            simp [isClass, read, plain, count, web, paths, names, image]
  | image =>
      constructor <;>
        simp [isClass, plain, html, count, web, paths, names]
  | other =>
      constructor <;>
        simp [isClass, plain, html, count, web, paths, names, image]

theorem gatheredFrom_gather (reps : List ScannedRep) :
    GatheredFrom urlParse reps (gather urlParse reps) := by
  induction reps using List.reverseRecOn with
  | nil => exact ⟨rfl, rfl, rfl, rfl, rfl, rfl, rfl⟩
  | append_singleton past rep inductionHypothesis =>
      rw [gather_append_singleton]
      exact gatheredFrom_ingest urlParse inductionHypothesis

end SearchableContent

theorem lastText_eq_none {wanted stricter : ScannedRep → Bool}
    (implies : ∀ rep, stricter rep = true → wanted rep = true)
    (nothing : lastText wanted reps = none) :
    lastText stricter reps = none := by
  induction reps using List.reverseRecOn with
  | nil => rfl
  | append_singleton past rep inductionHypothesis =>
      rw [lastText_append_singleton] at nothing ⊢
      by_cases isStricter : stricter rep = true
      · rw [if_pos (implies rep isStricter), Option.or_eq_none_iff] at nothing
        rw [if_pos isStricter, nothing.1, Option.none_or]
        exact inductionHypothesis nothing.2
      · rw [if_neg isStricter]
        by_cases isWanted : wanted rep = true
        · rw [if_pos isWanted, Option.or_eq_none_iff] at nothing
          exact inductionHypothesis nothing.2
        · rw [if_neg isWanted] at nothing
          exact inductionHypothesis nothing

end Scan

/-! ## When the documents agree -/

/-- The fields that the compared parts of a document are made of. -/
structure ContentsAgree (live persisted : SearchableContent) : Prop where
  plainText : live.plainText = persisted.plainText
  htmlText : live.plainText = none → live.htmlText = persisted.htmlText
  charCount : live.charCount = persisted.charCount
  uriList : live.uriList = persisted.uriList
  filePaths : live.filePaths = persisted.filePaths
  fileNames : live.fileNames = persisted.fileNames

theorem SearchableContent.isEmpty_iff {content : SearchableContent} :
    content.isEmpty = true ↔ content.plainText = none ∧
      content.htmlText = none ∧ content.uriList = [] ∧
      content.filePaths = [] ∧ content.fileNames = [] ∧
      content.hasImage = false := by
  simp [isEmpty, and_assoc]

theorem projectionsAgree_iff_contentsAgree (urlParse : UrlParse)
    (toLowercase : String → String) {live persisted : SearchableContent}
    (entry : ClipboardEntry) (liveMime persistedMime : String)
    (sourceDevice liveState persistedState : Option String)
    (hasDirectory : Bool) (sameImage : live.hasImage = persisted.hasImage)
    (liveCount : live.plainText = none → live.charCount = none)
    (persistedCount : persisted.plainText = none →
      persisted.charCount = none) :
    ProjectionsAgree
        (live.intoPipelineInput urlParse toLowercase entry liveMime
          sourceDevice liveState hasDirectory)
        (persisted.intoPipelineInput urlParse toLowercase entry persistedMime
          sourceDevice persistedState hasDirectory) ↔
      ContentsAgree live persisted := by
  have sameEmptiness : ContentsAgree live persisted →
      live.isEmpty = persisted.isEmpty := by
    intro agree
    rw [Bool.eq_iff_iff, SearchableContent.isEmpty_iff,
      SearchableContent.isEmpty_iff, ← agree.plainText, ← agree.uriList,
      ← agree.filePaths, ← agree.fileNames, ← sameImage]
    constructor
    · rintro ⟨noText, noHtml, rest⟩
      exact ⟨noText, (agree.htmlText noText).symm.trans noHtml, rest⟩
    · rintro ⟨noText, noHtml, rest⟩
      exact ⟨noText, (agree.htmlText noText).trans noHtml, rest⟩
  unfold SearchableContent.intoPipelineInput
  by_cases liveEmpty : live.isEmpty = true
  · by_cases persistedEmpty : persisted.isEmpty = true
    · rw [if_pos liveEmpty, if_pos persistedEmpty]
      obtain ⟨noText, noHtml, noUris, noPaths, noNames, _⟩ :=
        SearchableContent.isEmpty_iff.mp liveEmpty
      obtain ⟨noText', noHtml', noUris', noPaths', noNames', _⟩ :=
        SearchableContent.isEmpty_iff.mp persistedEmpty
      refine iff_of_true trivial ⟨noText.trans noText'.symm, fun _ =>
        noHtml.trans noHtml'.symm, ?_, noUris.trans noUris'.symm,
        noPaths.trans noPaths'.symm, noNames.trans noNames'.symm⟩
      rw [liveCount noText, persistedCount noText']
    · rw [if_pos liveEmpty, if_neg persistedEmpty]
      refine iff_of_false id fun agree => persistedEmpty ?_
      rw [← sameEmptiness agree]
      exact liveEmpty
  · by_cases persistedEmpty : persisted.isEmpty = true
    · rw [if_neg liveEmpty, if_pos persistedEmpty]
      refine iff_of_false id fun agree => liveEmpty ?_
      rw [sameEmptiness agree]
      exact persistedEmpty
    · rw [if_neg liveEmpty, if_neg persistedEmpty]
      constructor
      · rintro ⟨text, _, count, _, _⟩
        simp only [SearchPipelineInput.searchableText,
          SearchableText.mk.injEq] at text
        obtain ⟨plain, html, uris, paths, names⟩ := text
        refine ⟨plain, fun noText => ?_, count, uris, paths, names⟩
        have noText' := plain.symm.trans noText
        simpa [noText, noText'] using html
      · rintro ⟨plain, html, count, uris, paths, names⟩
        refine ⟨?_, ?_, count, ?_, ?_⟩
        · simp only [SearchPipelineInput.searchableText,
            SearchableText.mk.injEq]
          refine ⟨plain, ?_, uris, paths, names⟩
          cases isText : live.plainText with
          | none =>
              have isText' := plain.symm.trans isText
              simp only [isText', Option.isSome_none]
              exact html isText
          | some text =>
              have isText' := plain.symm.trans isText
              simp only [isText', Option.isSome_some, if_true]
        · simp only [plain, uris, sameImage]
        · simp only [paths, names]
        · simp only [plain, uris]

/-- The decisive texts read the same: the last text of the plain
representations, without one the last html, the lines of the lists as far as
they name anything, and the length of the preview. -/
structure ReadsAlike (urlParse : UrlParse)
    (captured stored : List ScannedRep) : Prop where
  plain : lastText isPlain captured = lastText isPlain stored
  html : lastText isPlain captured = none →
    lastText isHtml captured = lastText isHtml stored
  previewLength :
    (lastText isPlainPreview captured).map (fun text => (text.length : Int)) =
      (lastText isPlainPreview stored).map fun text => (text.length : Int)
  entries : webEntries (allUriLines captured) =
    webEntries (allUriLines stored)
  paths : (localPaths urlParse (allUriLines captured)).map PathBuf.display =
    (localPaths urlParse (allUriLines stored)).map PathBuf.display
  names : (localPaths urlParse (allUriLines captured)).filterMap lossyName =
    (localPaths urlParse (allUriLines stored)).filterMap lossyName

theorem readsAlike_iff_contentsAgree (urlParse : UrlParse)
    {captured stored : List ScannedRep} :
    ContentsAgree (SearchableContent.gather urlParse captured)
        (SearchableContent.gather urlParse stored) ↔
      ReadsAlike urlParse captured stored := by
  have live := SearchableContent.gatheredFrom_gather urlParse captured
  have persisted := SearchableContent.gatheredFrom_gather urlParse stored
  constructor
  · rintro ⟨plain, html, count, uris, paths, names⟩
    rw [live.plainText] at plain html
    rw [live.htmlText, persisted.htmlText] at html
    rw [persisted.plainText] at plain
    rw [live.charCount, persisted.charCount] at count
    rw [live.uriList, persisted.uriList] at uris
    rw [live.filePaths, persisted.filePaths] at paths
    rw [live.fileNames, persisted.fileNames] at names
    exact ⟨plain, html, count, uris, paths, names⟩
  · rintro ⟨plain, html, count, uris, paths, names⟩
    constructor
    · rw [live.plainText, persisted.plainText, plain]
    · intro noText
      rw [live.plainText] at noText
      rw [live.htmlText, persisted.htmlText, html noText]
    · rw [live.charCount, persisted.charCount, count]
    · rw [live.uriList, persisted.uriList, uris]
    · rw [live.filePaths, persisted.filePaths, paths]
    · rw [live.fileNames, persisted.fileNames, names]

theorem SearchableContent.charCount_of_plainText {urlParse : UrlParse}
    (noText : (gather urlParse reps).plainText = none) :
    (gather urlParse reps).charCount = none := by
  have gathered := gatheredFrom_gather urlParse reps
  rw [gathered.plainText] at noText
  have noPreview : lastText isPlainPreview reps = none := by
    apply lastText_eq_none _ noText
    intro rep isBoth
    exact (Bool.and_eq_true_iff.mp isBoth).1
  rw [gathered.charCount, noPreview]
  rfl

namespace StoredCapture

variable {toLowercase : String → String} (capture : StoredCapture toLowercase)

/-- The representations as the projection of the capture scans them. -/
def captured : List ScannedRep :=
  capture.snapshot.representations.map
    (scanCaptured toLowercase capture.selection)

/-- The rows as the projection of a rebuild scans them. -/
def storedReps : List ScannedRep :=
  capture.reps.map (scanStored toLowercase capture.selection)

def live (urlParse : UrlParse) : Option SearchPipelineInput :=
  buildFromCapture urlParse toLowercase capture.entry capture.snapshot
    capture.selection capture.sourceDevice capture.hasDirectory

def persisted (urlParse : UrlParse) : Option SearchPipelineInput :=
  buildFromPersisted urlParse toLowercase capture.entry capture.selection
    capture.reps capture.sourceDevice capture.hasDirectory

theorem sameClass {captured : ObservedClipboardRepresentation}
    {stored : PersistedClipboardRepresentation}
    (storedAs : StoredAs toLowercase captured stored) :
    classOf toLowercase stored.mimeType = classOf toLowercase captured.mime := by
  rcases storedAs.sameClass with same | ⟨image, imageToo⟩
  · rw [same]
  · rw [image, imageToo]

structure ScannedAlike (captured stored : ScannedRep) : Prop where
  sameClass : stored.searchClass = captured.searchClass
  samePreview : stored.isPreview = captured.isPreview

theorem scannedAlike :
    List.Forall₂ ScannedAlike capture.captured capture.storedReps := by
  unfold StoredCapture.captured storedReps
  rw [List.forall₂_map_left_iff, List.forall₂_map_right_iff]
  apply capture.stored.imp
  intro captured stored storedAs
  refine ⟨sameClass storedAs, ?_⟩
  simp only [scanCaptured, scanStored, storedAs.sameId]

theorem sameImages {captured stored : List ScannedRep}
    (alike : List.Forall₂ ScannedAlike captured stored) :
    captured.any (fun rep => rep.searchClass == .image) =
      stored.any fun rep => rep.searchClass == .image := by
  induction alike with
  | nil => rfl
  | cons pair _ inductionHypothesis =>
      rw [List.any_cons, List.any_cons, inductionHypothesis, pair.sameClass]

theorem contentsAgree_iff (urlParse : UrlParse) :
    ProjectionsAgree (capture.live urlParse) (capture.persisted urlParse) ↔
      ContentsAgree (SearchableContent.gather urlParse capture.captured)
        (SearchableContent.gather urlParse capture.storedReps) := by
  have images : (SearchableContent.gather urlParse capture.captured).hasImage =
      (SearchableContent.gather urlParse capture.storedReps).hasImage := by
    rw [(SearchableContent.gatheredFrom_gather urlParse _).hasImage,
      (SearchableContent.gatheredFrom_gather urlParse _).hasImage]
    exact sameImages capture.scannedAlike
  exact projectionsAgree_iff_contentsAgree urlParse toLowercase capture.entry
    _ _ capture.sourceDevice _ _ capture.hasDirectory images
    SearchableContent.charCount_of_plainText
    SearchableContent.charCount_of_plainText

end StoredCapture

/-! ### What a payload state keeps of a text -/

section Kept

variable {bytes : List UInt8}

theorem readText_of_decoded (decoded : fromUtf8 bytes = some text) :
    readText (some bytes) = if text.isEmpty then none else some text := by
  unfold readText
  rw [Option.getD_some, decoded]
  cases empty : text.isEmpty with
  | true => simp [Option.filter, empty]
  | false => simp [Option.filter, empty]

theorem readText_cleared_eq_iff :
    readText none = readText (some bytes) ↔ readText (some bytes) = none := by
  have nothing : readText none = none := by
    have empty : fromUtf8 [] = some "" := fromUtf8_asBytes ""
    unfold readText
    simp only [Option.getD_none, empty]
    rfl
  rw [nothing]
  exact eq_comm

end Kept

namespace Sample

/-- A text after its capture, and its row once the blob is written. -/
def offloaded (text : String) : StoredCapture toAsciiLowercase where
  entry := ⟨⟨"e1"⟩, "v1", 10, 10, .text, false⟩
  selection := ⟨"r1", "r1", "r1", []⟩
  snapshot := {
    tsMs := 10
    representations := [ObservedClipboardRepresentation.new "r1" "text"
      (some "text/plain") (asBytes text)] }
  reps := [{
    id := "r1"
    formatId := ⟨"text"⟩
    mimeType := some ⟨"text/plain"⟩
    sizeBytes := (asBytes text).length
    inlineData := none
    blobId := some "b1"
    payloadState := .blobReady
    lastError := none }]
  stored := .cons ⟨rfl, .inl rfl, rfl⟩ .nil
  sourceDevice := none
  hasDirectory := false

theorem classOf_plain :
    classOf toAsciiLowercase (some ⟨"text/plain"⟩) = .plain := by
  decide

theorem captured_offloaded (text : String) :
    (offloaded text).captured = [⟨.plain, some (asBytes text), true⟩] := by
  simp [StoredCapture.captured, offloaded, scanCaptured, classOf_plain,
    ObservedClipboardRepresentation.new,
    ObservedClipboardRepresentation.inlineBytes]

theorem storedReps_offloaded (text : String) :
    (offloaded text).storedReps = [⟨.plain, none, true⟩] := by
  simp [StoredCapture.storedReps, offloaded, scanStored, classOf_plain]

theorem offloaded_loses (notEmpty : text.isEmpty = false) :
    ¬ ProjectionsAgree ((offloaded text).live fun _ => none)
      ((offloaded text).persisted fun _ => none) := by
  intro agree
  have same := (((offloaded text).contentsAgree_iff _).mp agree).plainText
  rw [(SearchableContent.gatheredFrom_gather _ _).plainText,
    (SearchableContent.gatheredFrom_gather _ _).plainText,
    captured_offloaded, storedReps_offloaded] at same
  have cleared : readText none = readText (some (asBytes text)) := by
    simpa [lastText, ScannedRep.text] using same.symm
  have noText := readText_cleared_eq_iff.mp cleared
  rw [readText_of_decoded (fromUtf8_asBytes text), notEmpty] at noText
  cases noText

/-- A text of `length` letters. -/
def letters (length : Nat) : String :=
  String.ofList (List.replicate length 'a')

theorem letters_notEmpty {length : Nat} (positive : 0 < length) :
    (letters length).isEmpty = false := by
  rw [Bool.eq_false_iff]
  intro empty
  rw [String.isEmpty_iff] at empty
  have sized := congrArg String.length empty
  rw [letters, String.length_ofList, List.length_replicate] at sized
  have nothing : "".length = 0 := by
    rfl
  omega

end Sample

end OpenClipboard.Search
