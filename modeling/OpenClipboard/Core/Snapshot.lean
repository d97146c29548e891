import OpenClipboard.Core.ContentHash
import OpenClipboard.Core.Mime
import OpenClipboard.Core.Url

/-!
# Clipboard snapshots and their identity

A snapshot is a list of representations, each held inline or as a path to a
local file.  Its identity hashes every representation, except that file-class
representations give way to a stable file component once one is known.
-/

namespace OpenClipboard

open Text

structure FormatId where
  asStr : String
  deriving DecidableEq, Repr

/-- Where the bytes of a representation are. -/
inductive ClipboardPayloadSource where
  | inline (bytes : List UInt8)
  | localFile (path : PathBuf) (sizeBytes : UInt64)
  deriving DecidableEq, Repr

/-- One observed representation; `cachedHash` is filled by the first
`contentHash` and survives `takeInlineBytes`. -/
structure ObservedClipboardRepresentation where
  id : String
  formatId : FormatId
  mime : Option MimeType
  source : ClipboardPayloadSource
  cachedHash : Option Digest := none
  deriving DecidableEq, Repr

structure SystemClipboardSnapshot where
  tsMs : Int
  representations : List ObservedClipboardRepresentation
  fileContentDigests : List Digest := []
  fileSetV1Component : Option Digest := none
  deriving DecidableEq, Repr

/-! ## Classification of one representation -/

def isPlainTextMimeOrFormat (mime : Option MimeType) (formatId : FormatId) :
    Bool :=
  mime.any MimeType.isTextPlain || eqIgnoreAsciiCase formatId.asStr "text"

/-- The canonical check for a file clipboard entry. -/
def isFileMimeOrFormat (mime : Option MimeType) (formatId : FormatId) : Bool :=
  mime.any MimeType.isUriList ||
    (eqIgnoreAsciiCase formatId.asStr "files" ||
      eqIgnoreAsciiCase formatId.asStr "public.file-url" ||
      contains (toAsciiLowercase formatId.asStr) "uri-list")

namespace ObservedClipboardRepresentation

/-- A representation held in memory. -/
def new (id : String) (formatId : String) (mime : Option String)
    (bytes : List UInt8) : ObservedClipboardRepresentation where
  id := id
  formatId := ⟨formatId⟩
  mime := mime.map MimeType.mk
  source := .inline bytes

/-- A path-backed representation. -/
def newLocalFile (id : String) (formatId : String) (mime : Option String)
    (path : PathBuf) (sizeBytes : UInt64) :
    ObservedClipboardRepresentation where
  id := id
  formatId := ⟨formatId⟩
  mime := mime.map MimeType.mk
  source := .localFile path sizeBytes

def inlineBytes (rep : ObservedClipboardRepresentation) :
    Option (List UInt8) :=
  match rep.source with
  | .inline bytes => some bytes
  | .localFile _ _ => none

def localPath (rep : ObservedClipboardRepresentation) : Option PathBuf :=
  match rep.source with
  | .inline _ => none
  | .localFile path _ => some path

/-- The declared size; a file size is reinterpreted as `i64`. -/
def sizeBytes (rep : ObservedClipboardRepresentation) : Int :=
  match rep.source with
  | .inline bytes => bytes.length
  | .localFile _ size => size.toInt64.toInt

def isFile (rep : ObservedClipboardRepresentation) : Bool :=
  isFileMimeOrFormat rep.mime rep.formatId

def isImage (rep : ObservedClipboardRepresentation) : Bool :=
  rep.mime.any MimeType.isImage || eqIgnoreAsciiCase rep.formatId.asStr "image"

/-- `text/html` and `text/rtf` carriers. -/
def isRichText (rep : ObservedClipboardRepresentation) : Bool :=
  rep.mime.any (fun mime => mime.isTextHtml || mime.isTextRtf) ||
    (eqIgnoreAsciiCase rep.formatId.asStr "html" ||
      eqIgnoreAsciiCase rep.formatId.asStr "rtf")

/-- Link detection by MIME type or format identifier. -/
def isLink (rep : ObservedClipboardRepresentation) : Bool :=
  rep.mime.any (fun mime =>
      mime.classify == .textLink || contains mime.essence "url") ||
    (let format := toAsciiLowercase rep.formatId.asStr
     format == "url" || format == "uri" || format == "public.url")

def isPlainText (rep : ObservedClipboardRepresentation) : Bool :=
  isPlainTextMimeOrFormat rep.mime rep.formatId

/-- Any `text/*` that no more specific bucket took. -/
def isAnyText (rep : ObservedClipboardRepresentation) : Bool :=
  rep.mime.any fun mime => startsWith mime.essence "text/"

def linkHeuristicBytesLimit : Nat := 4096

/-- A text representation whose whole payload is one URL. -/
def isLinkContent (urlParse : UrlParse)
    (rep : ObservedClipboardRepresentation) : Bool :=
  if !(rep.isPlainText || rep.isAnyText) then
    false
  else
    match rep.inlineBytes with
    | none => false
    | some bytes =>
        if bytes.isEmpty || bytes.length > linkHeuristicBytesLimit then
          false
        else
          match fromUtf8 bytes with
          | none => false
          | some text =>
              let trimmed := trim text
              if !(contains trimmed "://" || startsWith trimmed "mailto:" ||
                  startsWith trimmed "tel:" || startsWith trimmed "sms:") then
                false
              else
                isSingleUrl urlParse text

/-- The content hash, `none` where a path cannot be read (a panic in the
code).  The cached value wins over the bytes. -/
def contentHash (blake3 : Blake3) (readFile : PathBuf → Option (List UInt8))
    (rep : ObservedClipboardRepresentation) : Option Digest :=
  match rep.cachedHash with
  | some hash => some hash
  | none =>
      match rep.source with
      | .inline bytes => some (ContentHash.contentHash blake3 bytes)
      | .localFile path _ =>
          (readFile path).map (ContentHash.contentHash blake3)

/-- The representation after `content_hash` has run and cached its result. -/
def withHashCached (blake3 : Blake3)
    (readFile : PathBuf → Option (List UInt8))
    (rep : ObservedClipboardRepresentation) :
    ObservedClipboardRepresentation :=
  { rep with cachedHash := rep.contentHash blake3 readFile }

/-- Take the inline bytes, leaving an empty inline source and the cache. -/
def takeInlineBytes (rep : ObservedClipboardRepresentation) :
    Option (List UInt8 × ObservedClipboardRepresentation) :=
  match rep.source with
  | .inline bytes => some (bytes, { rep with source := .inline [] })
  | .localFile _ _ => none

end ObservedClipboardRepresentation

namespace SystemClipboardSnapshot

/-- A known file component replaces the file-class representations. -/
def hasFileComponent (snapshot : SystemClipboardSnapshot) : Bool :=
  snapshot.fileSetV1Component.isSome || !snapshot.fileContentDigests.isEmpty

def hashedRepresentations (snapshot : SystemClipboardSnapshot) :
    List ObservedClipboardRepresentation :=
  snapshot.representations.filter fun rep =>
    !(snapshot.hasFileComponent && rep.isFile)

def fileComponent (blake3 : Blake3) (snapshot : SystemClipboardSnapshot) :
    Option Digest :=
  match snapshot.fileSetV1Component with
  | some component => some component
  | none =>
      if snapshot.fileContentDigests.isEmpty then
        none
      else
        some (ContentHash.fileContentWrapper blake3 snapshot.fileContentDigests)

/-- The cross-device identity; `none` where a path cannot be read. -/
def snapshotHash (blake3 : Blake3)
    (readFile : PathBuf → Option (List UInt8))
    (snapshot : SystemClipboardSnapshot) : Option Digest :=
  (snapshot.hashedRepresentations.mapM fun
      (rep : ObservedClipboardRepresentation) =>
    rep.contentHash blake3 readFile).map fun repHashes =>
      ContentHash.snapshotHash blake3
        (repHashes ++ (snapshot.fileComponent blake3).toList)

def identityDigests (blake3 : Blake3)
    (readFile : PathBuf → Option (List UInt8))
    (snapshot : SystemClipboardSnapshot) : Option (List Digest) :=
  (snapshot.hashedRepresentations.mapM fun
      (rep : ObservedClipboardRepresentation) =>
    rep.contentHash blake3 readFile).map fun repHashes =>
      repHashes ++ (snapshot.fileComponent blake3).toList

section Identity

variable {blake3 : Blake3} {readFile : PathBuf → Option (List UInt8)}
variable {snapshot other : SystemClipboardSnapshot}

theorem snapshotHash_eq_map :
    snapshot.snapshotHash blake3 readFile =
      (snapshot.identityDigests blake3 readFile).map
        (ContentHash.snapshotHash blake3) := by
  unfold snapshotHash identityDigests
  rw [Option.map_map]
  rfl

/-- The identity sees of a representation its content hash and whether it is
of a file class. -/
theorem identityDigests_congr
    (sameDigests : other.fileContentDigests = snapshot.fileContentDigests)
    (sameComponent : other.fileSetV1Component = snapshot.fileSetV1Component)
    (pointwise : List.Forall₂
      (fun (rep otherRep : ObservedClipboardRepresentation) =>
        otherRep.isFile = rep.isFile ∧
          otherRep.contentHash blake3 readFile =
            rep.contentHash blake3 readFile)
      snapshot.representations other.representations) :
    other.identityDigests blake3 readFile =
      snapshot.identityDigests blake3 readFile := by
  have sameHas : other.hasFileComponent = snapshot.hasFileComponent := by
    unfold hasFileComponent
    rw [sameDigests, sameComponent]
  have sameFile : other.fileComponent blake3 =
      snapshot.fileComponent blake3 := by
    unfold fileComponent
    rw [sameDigests, sameComponent]
  have sameHashes : other.hashedRepresentations.mapM
        (fun (rep : ObservedClipboardRepresentation) =>
          rep.contentHash blake3 readFile) =
      snapshot.hashedRepresentations.mapM
        fun (rep : ObservedClipboardRepresentation) =>
          rep.contentHash blake3 readFile := by
    unfold hashedRepresentations
    rw [sameHas]
    generalize snapshot.representations = reps at pointwise
    generalize other.representations = others at pointwise
    induction pointwise with
    | nil => rfl
    | cons here _ inductionHypothesis =>
        rw [List.filter_cons, List.filter_cons, here.1]
        split
        · rw [List.mapM_cons, List.mapM_cons, here.2, inductionHypothesis]
        · exact inductionHypothesis
  unfold identityDigests
  rw [sameHashes, sameFile]

end Identity

end SystemClipboardSnapshot

end OpenClipboard
