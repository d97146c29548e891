import OpenClipboard.History.CacheDisk
import OpenClipboard.Storage.Representations

/-!
# Stored uri-lists

What a captured representation keeps of its bytes, and the cached files that
the history use cases read out of it.
-/

namespace OpenClipboard.History

open Text

/-! ## What is stored of a capture -/

def previewLengthChars : Nat := 500

def isTextMimeType (mime : Option MimeType) : Bool :=
  match mime with
  | none => false
  | some mime =>
      Text.startsWith mime.asStr "text/" || mime.asStr == "text/plain" ||
        contains mime.asStr "json" || contains mime.asStr "xml" ||
        contains mime.asStr "javascript" || contains mime.asStr "html" ||
        contains mime.asStr "css"

/-- The first characters of text, the first bytes of anything else. -/
def truncateToPreview (bytes : List UInt8) : List UInt8 :=
  match fromUtf8 bytes with
  | some text => asBytes (String.ofList (text.toList.take previewLengthChars))
  | none => bytes.take previewLengthChars

/-- `normalize` of an observed representation with its bytes in memory. -/
def normalize (inlineThresholdBytes : Nat) (id : String) (formatId : FormatId)
    (mime : Option MimeType) (bytes : List UInt8) :
    PersistedClipboardRepresentation :=
  if bytes.length ≤ inlineThresholdBytes then {
    id := id
    formatId := formatId
    mimeType := mime
    sizeBytes := bytes.length
    inlineData := some bytes
    blobId := none
    payloadState := .inline
    lastError := none }
  else {
    id := id
    formatId := formatId
    mimeType := mime
    sizeBytes := bytes.length
    inlineData :=
      if isTextMimeType mime then some (truncateToPreview bytes) else none
    blobId := none
    payloadState := .staged
    lastError := none }

/-- What the payload states keep of the captured bytes beside the row's
blob. -/
def KeepsOf (captured : List UInt8)
    (rep : PersistedClipboardRepresentation) : Prop :=
  match rep.payloadState with
  | .inline => rep.inlineData = some captured
  | .blobReady => rep.inlineData = none
  | .staged => rep.inlineData = none ∨
      rep.inlineData = some (truncateToPreview captured)
  | .processing => rep.inlineData = none ∨
      rep.inlineData = some (truncateToPreview captured)
  | .failed _ => rep.inlineData = none ∨
      rep.inlineData = some (truncateToPreview captured)
  | .lost => rep.inlineData = none ∨
      rep.inlineData = some (truncateToPreview captured)

theorem keepsOf_normalize {inlineThresholdBytes : Nat} {id : String}
    {formatId : FormatId} {mime : Option MimeType} {bytes : List UInt8} :
    KeepsOf bytes (normalize inlineThresholdBytes id formatId mime bytes) := by
  unfold normalize
  by_cases small : bytes.length ≤ inlineThresholdBytes
  · rw [if_pos small]
    rfl
  · rw [if_neg small]
    by_cases isText : isTextMimeType mime = true
    · exact Or.inr (if_pos isText)
    · exact Or.inl (if_neg isText)

structure StoredRepresentation where
  rep : PersistedClipboardRepresentation
  captured : List UInt8
  keeps : KeepsOf captured rep

def StoredRepresentation.ofCapture (inlineThresholdBytes : Nat) (id : String)
    (formatId : FormatId) (mime : Option MimeType) (bytes : List UInt8) :
    StoredRepresentation where
  rep := normalize inlineThresholdBytes id formatId mime bytes
  captured := bytes
  keeps := keepsOf_normalize

/-! ## Cached files of a list -/

/-- `Url::parse(line).ok()` and then `to_file_path().ok()`: the bytes of the
path. -/
abbrev FileUrlPath := String → Option OsString

section Lines

variable (fileUrlPath : FileUrlPath) (cacheDir : Location)

def linePath (line : String) : Option OsPath :=
  if line.isEmpty || Text.startsWith line "#" then
    none
  else if Text.startsWith line "file://" then
    (fileUrlPath line).map OsPath.ofOsStr
  else
    some (OsPath.ofOsStr (asBytes line))

/-- `path.starts_with(cache_dir)`. -/
def isCachePath (path : OsPath) : Bool :=
  path.path.startsWith cacheDir.path

/-- `extract_cache_paths`; the deletion of an entry and the reverse index have
the same loop. -/
def extractCachePaths (uriList : List UInt8) : List OsPath :=
  (((lines (toStringLossy uriList)).map trim).filterMap
    (linePath fileUrlPath)).filter (isCachePath cacheDir)

def isUriList (rep : PersistedClipboardRepresentation) : Bool :=
  contains ((rep.mimeType.map MimeType.asStr).getD "") "uri-list"

/-- The cached files that the inline data of an entry shows. -/
def shownPaths (representations : List StoredRepresentation) : List OsPath :=
  representations.flatMap fun stored =>
    match isUriList stored.rep, stored.rep.inlineData with
    | true, some uriList => extractCachePaths fileUrlPath cacheDir uriList
    | _, _ => []

/-- The cached files of its complete lists. -/
def capturedPaths (representations : List StoredRepresentation) :
    List OsPath :=
  representations.flatMap fun stored =>
    if isUriList stored.rep then
      extractCachePaths fileUrlPath cacheDir stored.captured
    else
      []

end Lines

end OpenClipboard.History
