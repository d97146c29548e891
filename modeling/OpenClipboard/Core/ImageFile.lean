import OpenClipboard.Core.Path

/-!
# Image files by extension

Where no bytes are read, a file counts as an image by the extension of its
name.
-/

namespace OpenClipboard

open Text

/-- `Path::extension`: what follows the last dot, unless that dot is the first
byte of the name. -/
def PathBuf.extension (path : PathBuf) : Option OsString :=
  path.fileName.bind fun name =>
    match name.bytes.splitOn 0x2E with
    | [[], _] => none
    | _ :: second :: rest => (second :: rest).getLast?
    | _ => none

def imageFileMimeFromPath (path : PathBuf) : Option String :=
  (path.extension.bind fromUtf8).bind fun extension =>
    let lower := toAsciiLowercase extension
    if lower = "png" then some "image/png"
    else if lower = "jpg" ∨ lower = "jpeg" then some "image/jpeg"
    else if lower = "gif" then some "image/gif"
    else if lower = "webp" then some "image/webp"
    else if lower = "bmp" then some "image/bmp"
    else if lower = "tif" ∨ lower = "tiff" then some "image/tiff"
    else none

example : imageFileMimeFromPath (PathBuf.fromText "/a/photo.JPG") =
    some "image/jpeg" := by
  decide

end OpenClipboard
