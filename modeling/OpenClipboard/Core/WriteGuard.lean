import OpenClipboard.Core.Snapshot

/-!
# Guard keys

What dedup and echo attribution read of a snapshot: the hash of its most
meaningful representation, under a tag of the kind.  As in `contentHash`,
`none` stands for the panic on a path that cannot be read.
-/

namespace OpenClipboard

open Text ContentHash

inductive ClipboardWriteIntent where
  | localRestore
  | remotePush
  deriving DecidableEq, Repr

def MimeType.isTextLike (mime : MimeType) : Bool :=
  match mime.classify with
  | .textPlain | .textHtml | .textRtf | .textMarkdown | .uriList | .textLink
  | .textOther => true
  | _ => false

def ObservedClipboardRepresentation.isText
    (rep : ObservedClipboardRepresentation) : Bool :=
  rep.mime.any MimeType.isTextLike ||
    (eqIgnoreAsciiCase rep.formatId.asStr "text" ||
      eqIgnoreAsciiCase rep.formatId.asStr "html" ||
      eqIgnoreAsciiCase rep.formatId.asStr "rtf")

namespace SystemClipboardSnapshot

section Keys

variable (blake3 : Blake3) (readFile : PathBuf → Option (List UInt8))

/-- The tag and the content hash of the first representation of a kind. -/
def taggedHash (snapshot : SystemClipboardSnapshot) (tag : String)
    (isKind : ObservedClipboardRepresentation → Bool) :
    Option (Option String) :=
  (snapshot.representations.find? isKind).map fun rep =>
    (rep.contentHash blake3 readFile).map fun hash =>
      tag ++ ":" ++ formatBlake3v1 hash

/-- Files before plain text, plain text before rich text, and images last. -/
def meaningfulOriginKey (snapshot : SystemClipboardSnapshot) :
    Option (Option String) :=
  let files := snapshot.taggedHash blake3 readFile "files"
    ObservedClipboardRepresentation.isFile
  let text := snapshot.taggedHash blake3 readFile "text"
    ObservedClipboardRepresentation.isPlainText
  let richText := snapshot.taggedHash blake3 readFile "rich-text"
    ObservedClipboardRepresentation.isText
  let image := snapshot.taggedHash blake3 readFile "image"
    ObservedClipboardRepresentation.isImage
  match files.or (text.or (richText.or image)) with
  | some key => key.map some
  | none => some none

def originGuardKey (snapshot : SystemClipboardSnapshot) : Option String :=
  match snapshot.meaningfulOriginKey blake3 readFile with
  | none => none
  | some (some key) => some key
  | some none =>
      (snapshot.snapshotHash blake3 readFile).map formatBlake3v1

end Keys

def primaryImageSizeBytes (snapshot : SystemClipboardSnapshot) : Option Int :=
  (snapshot.representations.find?
    ObservedClipboardRepresentation.isImage).map
      ObservedClipboardRepresentation.sizeBytes

def primaryImageInlineBytes (snapshot : SystemClipboardSnapshot) :
    Option (List UInt8) :=
  (snapshot.representations.find?
    ObservedClipboardRepresentation.isImage).bind
      ObservedClipboardRepresentation.inlineBytes

end SystemClipboardSnapshot

end OpenClipboard
