import OpenClipboard.Capture.EntryFileSet
import OpenClipboard.Core.ImageFile

/-!
# The file representations of the platform reader

A copied file list becomes one `uri-list` representation.  If one of the files
is an image, the reader adds a path-backed representation of the first one.
-/

namespace OpenClipboard

open Text

section Reader

variable (sizeLookup : PathBuf → Option Nat)
variable (fromFilePath : PathBuf → Option String)

def filterSyncableClipboardFiles (paths : List PathBuf) : List PathBuf :=
  paths.filter fun path =>
    match sizeLookup path with
    | some 0 => false
    | some _ => true
    | none => false

def filesRepresentation (paths : List PathBuf) :
    ObservedClipboardRepresentation :=
  .new "files" "files" (some "text/uri-list")
    (asBytes ("\n".intercalate (paths.filterMap fromFilePath)))

def maxImageFileBytes : Nat := 100 * 1024 * 1024

/-- The first image file of acceptable size, not read but referenced. -/
def imageFromFile (paths : List PathBuf) :
    Option ObservedClipboardRepresentation :=
  paths.findSome? fun path =>
    match imageFileMimeFromPath path, sizeLookup path with
    | some mime, some size =>
        if size = 0 ∨ maxImageFileBytes < size then
          none
        else
          some (.newLocalFile "image-from-file" "image-from-file" (some mime)
            path (UInt64.ofNat size))
    | _, _ => none

/-- The representations read from a copied file list, when no image data was
read besides it. -/
def readFileRepresentations (rawPaths : List PathBuf) :
    List ObservedClipboardRepresentation :=
  let paths := filterSyncableClipboardFiles sizeLookup rawPaths
  if paths.isEmpty then
    []
  else
    filesRepresentation fromFilePath paths ::
      (imageFromFile sizeLookup paths).toList

end Reader

end OpenClipboard
