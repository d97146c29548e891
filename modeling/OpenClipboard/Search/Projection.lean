import OpenClipboard.History.UriList
import OpenClipboard.Outbound.SnapshotFromEntry
import OpenClipboard.Search.Generation

/-!
# Search projections

An entry is projected from its snapshot when it is captured and from its rows
when the index is rebuilt.  Both paths scan the representations with the same
rules; the rows only have what the payload states keep of the bytes inline.
`Url::parse` and `str::to_lowercase` are parameters.
-/

namespace OpenClipboard.Search

open Text History

inductive ClipboardEntryContentCategory where
  | text
  | image
  | file
  | richText
  | other
  deriving DecidableEq, Repr

structure ClipboardEntry where
  entryId : EntryId
  eventId : String
  createdAtMs : Int
  activeTimeMs : Int
  contentCategory : ClipboardEntryContentCategory
  isFavorited : Bool
  deriving DecidableEq, Repr

structure SearchPipelineInput where
  entryId : EntryId
  eventId : String
  activeTimeMs : Int
  capturedAtMs : Int
  contentType : ContentType
  tags : List TagId
  mimeType : String
  fileExtensions : List String
  plainText : Option String
  htmlText : Option String
  uriList : List String
  filePaths : List String
  fileNames : List String
  textPreview : Option String
  charCount : Option Int
  linkUrls : List String
  sourceDevice : Option String
  payloadState : Option String
  deriving DecidableEq, Repr

section Rules

variable (urlParse : UrlParse) (toLowercase : String → String)

/-! ## Links and tags -/

/-- One `http` or `https` URL without inner whitespace. -/
def isWebUrl (candidate : String) : Bool :=
  if (trim candidate).isEmpty || (trim candidate).toList.any isWhitespace then
    false
  else
    match urlParse (trim candidate) with
    | some url => url.scheme == "http" || url.scheme == "https"
    | none => false

def nonEmptyLines (text : String) : List String :=
  ((lines text).map trim).filter fun line => !line.isEmpty

/-- The web URLs of a uri-list, and those of a text that has nothing else. -/
def detectLinkUrls (uriList : List String) (plainText : Option String) :
    List String :=
  (uriList.map trim).filter (isWebUrl urlParse) ++
    match plainText with
    | none => []
    | some text =>
        if !(nonEmptyLines text).isEmpty &&
            (nonEmptyLines text).all (isWebUrl urlParse) then
          nonEmptyLines text
        else
          []

def codeKeywords : List String :=
  ["function ", "const ", "interface ", "import ", "export ", "def ", "fn ",
    "impl ", "struct ", "func ", "package ", "SELECT ", "INSERT INTO ",
    "UPDATE ", "DELETE FROM ", "CREATE TABLE "]

def codePunctuation : List String :=
  ["\x7b", "\x7d", "=>", "->", "::", "</", "/>", "#include"]

def codeAssignments : List String := [" = ", " := ", "==", "!="]

def codeComments : List String := ["//", "/*", "# ", "-- "]

def trimStart (text : String) : String :=
  String.ofList (text.toList.dropWhile isWhitespace)

def isIndented (line : String) : Bool :=
  startsWith line "  " || startsWith line "\t"

def isCommentLike (line : String) : Bool :=
  codeComments.any fun mark => startsWith (trimStart line) mark

def looksLikeCode (text : Option String) : Bool :=
  match text.map trim with
  | none => false
  | some trimmed =>
      if trimmed.utf8ByteSize < 12 then
        false
      else
        let hasCodeKeyword := codeKeywords.any (contains trimmed)
        let hasCodePunctuation := codePunctuation.any (contains trimmed)
        let assignmentLike := codeAssignments.any (contains trimmed)
        let indented := ((lines trimmed).take 12).any isIndented
        let commentLike := ((lines trimmed).take 12).any isCommentLike
        (hasCodeKeyword &&
            (hasCodePunctuation || assignmentLike || indented)) ||
          (hasCodePunctuation && indented) ||
          (commentLike && (hasCodeKeyword || hasCodePunctuation))

/-- What the builtin tag rules read. -/
structure TaggableContent where
  contentType : ContentType
  uriList : List String
  plainText : Option String
  hasImage : Bool
  hasDirectory : Bool

def builtinRules : List (TagId × (TaggableContent → Bool)) :=
  [(TagId.link, fun content =>
      !(detectLinkUrls urlParse content.uriList content.plainText).isEmpty),
    (TagId.image, fun content => content.hasImage),
    (TagId.directory, fun content => content.hasDirectory),
    (TagId.code, fun content => looksLikeCode content.plainText)]

def evaluateBuiltinContentTags (content : TaggableContent) : List TagId :=
  ((builtinRules urlParse).filter fun rule => rule.2 content).map Prod.fst

/-! ## File extensions -/

/-- The text after the last `/` or `\`. -/
def lastSegment (text : String) : List Char :=
  (text.toList.reverse.takeWhile fun c => c ≠ '/' ∧ c ≠ '\\').reverse

/-- What follows the last dot of a name that does not start with it. -/
def extensionOf (name : List Char) : Option String :=
  let extension := (name.reverse.takeWhile (· ≠ '.')).reverse
  if extension.length + 1 < name.length ∧ extension ≠ [] then
    some (toLowercase (String.ofList extension))
  else
    none

/-- Sorted and without repetitions. -/
def collectExtensions (filePaths fileNames : List String) : List String :=
  ((((filePaths ++ fileNames).map lastSegment).filterMap
    (extensionOf toLowercase)).insertionSort (· ≤ ·)).dedup

/-! ## Scanning the representations -/

/-- What a scan does with a representation. -/
inductive SearchClass where
  | image
  | plain
  | html
  | uriList
  | other
  deriving DecidableEq, Repr

/-- The dispatch on a lowercased type. -/
def searchClass (mime : String) : SearchClass :=
  if startsWith mime "image/" then
    .image
  else if mime == "text/plain" || startsWith mime "text/plain;" then
    .plain
  else if mime == "text/html" || startsWith mime "text/html;" then
    .html
  else if mime == "text/uri-list" || startsWith mime "text/uri-list;" ||
      mime == "file/uri-list" || startsWith mime "file/uri-list;" then
    .uriList
  else
    .other

structure ScannedRep where
  searchClass : SearchClass
  inlineBytes : Option (List UInt8)
  isPreview : Bool
  deriving DecidableEq, Repr

def readText (inlineBytes : Option (List UInt8)) : Option String :=
  (fromUtf8 (inlineBytes.getD [])).filter fun text => !text.isEmpty

namespace ScannedRep

def text (rep : ScannedRep) : Option String :=
  readText rep.inlineBytes

/-- The lines of a uri-list that are neither blank nor comments. -/
def uriLines (rep : ScannedRep) : List String :=
  match fromUtf8 (rep.inlineBytes.getD []) with
  | none => []
  | some text => parseUriList text

end ScannedRep

structure SearchableContent where
  plainText : Option String := none
  htmlText : Option String := none
  uriList : List String := []
  filePaths : List String := []
  fileNames : List String := []
  textPreview : Option String := none
  charCount : Option Int := none
  hasImage : Bool := false
  hasText : Bool := false
  deriving DecidableEq, Repr

/-- The local path of a `file://` line. -/
def localPathOf (line : String) : Option PathBuf :=
  (urlParse line).bind Url.toFilePath

def lossyName (path : PathBuf) : Option String :=
  path.fileName.map fun name => toStringLossy name.bytes

namespace SearchableContent

def ingestLine (content : SearchableContent) (line : String) :
    SearchableContent :=
  if startsWith line "file://" then
    match localPathOf urlParse line with
    | none => content
    | some path => { content with
        fileNames := content.fileNames ++ (lossyName path).toList
        filePaths := content.filePaths ++ [path.display] }
  else
    { content with uriList := content.uriList ++ [line] }

def ingest (content : SearchableContent) (rep : ScannedRep) :
    SearchableContent :=
  match rep.searchClass with
  | .image => { content with hasImage := true }
  | .plain =>
      match rep.text with
      | none => { content with hasText := true }
      | some text => { content with
          hasText := true
          textPreview :=
            if rep.isPreview then
              some (String.ofList (text.toList.take 200))
            else content.textPreview
          charCount :=
            if rep.isPreview then some text.length else content.charCount
          plainText := some text }
  | .html =>
      match rep.text with
      | none => content
      | some text => { content with htmlText := some text }
  | .uriList => rep.uriLines.foldl (ingestLine urlParse) content
  | .other => content

def isEmpty (content : SearchableContent) : Bool :=
  content.plainText.isNone && content.htmlText.isNone &&
    content.uriList.isEmpty && content.filePaths.isEmpty &&
    content.fileNames.isEmpty && !content.hasImage

/-- The accumulators after all representations. -/
def gather (reps : List ScannedRep) : SearchableContent :=
  reps.foldl (ingest urlParse) {}

end SearchableContent

def searchContentTypeFromEntryCategory :
    ClipboardEntryContentCategory → ContentType
  | .text => .text
  | .image => .image
  | .file => .file
  | .richText => .html
  | .other => .other

def SearchableContent.intoPipelineInput (content : SearchableContent)
    (entry : ClipboardEntry) (mimeType : String)
    (sourceDevice payloadState : Option String) (hasDirectory : Bool) :
    Option SearchPipelineInput :=
  if content.isEmpty then
    none
  else
    let contentType := searchContentTypeFromEntryCategory entry.contentCategory
    let tags := evaluateBuiltinContentTags urlParse {
      contentType := contentType
      uriList := content.uriList
      plainText := content.plainText
      hasImage := content.hasImage
      hasDirectory := hasDirectory }
    some {
      entryId := entry.entryId
      eventId := entry.eventId
      activeTimeMs := entry.activeTimeMs
      capturedAtMs := entry.createdAtMs
      contentType := contentType
      tags := if entry.isFavorited then tags ++ [TagId.favorited] else tags
      mimeType := mimeType
      fileExtensions :=
        collectExtensions toLowercase content.filePaths content.fileNames
      plainText := content.plainText
      htmlText := content.htmlText
      uriList := content.uriList
      filePaths := content.filePaths
      fileNames := content.fileNames
      textPreview := content.textPreview
      charCount := content.charCount
      linkUrls :=
        detectLinkUrls urlParse content.uriList content.plainText
      sourceDevice := sourceDevice
      payloadState := payloadState }

def mimeText (mime : Option MimeType) : String :=
  (mime.map MimeType.asStr).getD ""

def classOf (mime : Option MimeType) : SearchClass :=
  searchClass (toLowercase (mimeText mime))

def scanCaptured (selection : ClipboardSelection)
    (rep : ObservedClipboardRepresentation) : ScannedRep where
  searchClass := classOf toLowercase rep.mime
  inlineBytes := rep.inlineBytes
  isPreview := rep.id == selection.previewRepId

def scanStored (selection : ClipboardSelection)
    (rep : PersistedClipboardRepresentation) : ScannedRep where
  searchClass := classOf toLowercase rep.mimeType
  inlineBytes := rep.inlineData
  isPreview := rep.id == selection.previewRepId

def mimeOrOctetStream (mime : Option MimeType) : String :=
  (mime.map MimeType.asStr).getD "application/octet-stream"

def payloadStateMarker : PayloadAvailability → Option String
  | .lost => some "Lost"
  | _ => none

def buildFromCapture (entry : ClipboardEntry)
    (snapshot : SystemClipboardSnapshot) (selection : ClipboardSelection)
    (sourceDevice : Option String) (hasDirectory : Bool) :
    Option SearchPipelineInput :=
  let pasteRep := snapshot.representations.find? fun rep =>
    rep.id == selection.pasteRepId
  (SearchableContent.gather urlParse
    (snapshot.representations.map
      (scanCaptured toLowercase selection))).intoPipelineInput urlParse
    toLowercase entry (mimeOrOctetStream (pasteRep.bind fun rep => rep.mime))
    sourceDevice none hasDirectory

def buildFromPersisted (entry : ClipboardEntry)
    (selection : ClipboardSelection)
    (reps : List PersistedClipboardRepresentation)
    (sourceDevice : Option String) (hasDirectory : Bool) :
    Option SearchPipelineInput :=
  let pasteRep := reps.find? fun rep => rep.id == selection.pasteRepId
  (SearchableContent.gather urlParse
    (reps.map (scanStored toLowercase selection))).intoPipelineInput urlParse
    toLowercase entry
    (mimeOrOctetStream (pasteRep.bind fun rep => rep.mimeType)) sourceDevice
    (pasteRep.bind fun rep => payloadStateMarker rep.payloadState)
    hasDirectory

end Rules

end OpenClipboard.Search
