import OpenClipboard.Core.Text

/-!
# The clipboard document of the mobile client

The document a server answers with, its counterpart at the foreign-function
boundary, and the documents the phone publishes.  A hash is kept without the
whitespace around it; a blank one is absent.  The counterpart has no absent
size and no negative one.
-/

namespace OpenClipboard.MobileEngine

open Text

inductive ClipboardKind
  | text
  | image
  | file
  | group
  deriving DecidableEq, Repr

/-- The `SyncClipboard.json` document. -/
structure Clipboard where
  kind : ClipboardKind
  hash : Option String
  contentId : Option String
  text : String
  hasData : Bool
  dataName : Option String
  size : Option Int64
  deriving DecidableEq

/-- The document as the foreign-function boundary passes it. -/
structure ClipboardMeta where
  kind : ClipboardKind
  text : String
  dataName : Option String
  hasData : Bool
  size : UInt64
  hash : Option String
  contentId : Option String
  deriving DecidableEq

def normalizeHash (raw : Option String) : Option String :=
  let trimmed := (raw.map trim).getD ""
  if trimmed = "" then none else some trimmed

def Clipboard.new (kind : ClipboardKind) (hash : Option String)
    (text : String) (hasData : Bool) (dataName : Option String)
    (size : Option Int64) : Clipboard where
  kind := kind
  hash := normalizeHash hash
  contentId := none
  text := text
  hasData := hasData
  dataName := dataName
  size := size

namespace ClipboardMeta

def intoProto (document : ClipboardMeta) : Clipboard :=
  { Clipboard.new document.kind document.hash document.text document.hasData
      document.dataName (some document.size.toInt64) with
    contentId := document.contentId }

def fromProto (entry : Clipboard) : ClipboardMeta where
  kind := entry.kind
  text := entry.text
  dataName := entry.dataName
  hasData := entry.hasData
  size := (max (entry.size.getD 0) 0).toUInt64
  hash := entry.hash
  contentId := entry.contentId

end ClipboardMeta

/-! ## What the phone publishes -/

/-- What publishing takes from other crates: the extended grapheme clusters of
a text, and the uppercase hexadecimal SHA-256 of some bytes. -/
structure PublishPorts where
  graphemes : String → List String
  sha256HexUpper : List UInt8 → String

def longTextThreshold : Nat := 10240

def fallbackFilename : String := "file"

section Publish

variable (ports : PublishPorts)

def publishText (text : String) : Clipboard × Option (List UInt8) :=
  let hash := ports.sha256HexUpper (asBytes text)
  let count := (ports.graphemes text).length
  if longTextThreshold < count then
    ({ kind := .text
       hash := some hash
       contentId := none
       text := String.join ((ports.graphemes text).take longTextThreshold)
       hasData := true
       dataName := some ("text_" ++ hash ++ ".txt")
       size := some (Int64.ofNat count) }, some (asBytes text))
  else
    ({ kind := .text
       hash := some hash
       contentId := none
       text := text
       hasData := false
       dataName := none
       size := some (Int64.ofNat count) }, none)

def publishImage (bytes : List UInt8) (ext : String) :
    Clipboard × List UInt8 :=
  let dataName := "image." ++ ext
  ({ kind := .image
     hash := some (ports.sha256HexUpper bytes)
     contentId := none
     text := dataName
     hasData := true
     dataName := some dataName
     size := some (Int64.ofNat bytes.length) }, bytes)

/-- The text after the last cluster that is the separator. -/
def afterLastGrapheme (separator name : String) : String :=
  let clusters := ports.graphemes name
  if separator ∈ clusters then
    String.join (clusters.reverse.takeWhile (· ≠ separator)).reverse
  else
    name

def sanitizedFilename (raw : String) : String :=
  let name := trim
    (afterLastGrapheme ports "\\" (afterLastGrapheme ports "/" raw))
  if name = "" then fallbackFilename else name

def publishFile (name : String) (bytes : List UInt8) :
    Clipboard × List UInt8 :=
  let safe := sanitizedFilename ports name
  ({ kind := .file
     hash := some (ports.sha256HexUpper bytes)
     contentId := none
     text := safe
     hasData := true
     dataName := some safe
     size := some (Int64.ofNat bytes.length) }, bytes)

end Publish

/-! ## Hashes and sizes through the boundary -/

end OpenClipboard.MobileEngine
