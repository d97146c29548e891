import OpenClipboard.Core.Path

/-!
# URL parsing

The `url` crate is a parameter: what `Url::parse` accepts, the scheme it
reports and the path `Url::to_file_path` gives.  Only URL texts of one line
reach it; the line classification in front of it is the repository's own.
-/

namespace OpenClipboard

open Text

/-- The parts of a parsed URL that are read. -/
structure Url where
  scheme : String
  toFilePath : Option PathBuf
  deriving DecidableEq, Repr

abbrev UrlParse := String → Option Url

/-- Classification of one `text/uri-list` line. -/
inductive UriListLineKind where
  | file (path : PathBuf)
  | nonFile
  deriving DecidableEq, Repr

section Parsing

variable (urlParse : UrlParse)

/-- Classify one raw line: blank lines, comments and whatever is not a `file`
URL with a local path are not files. -/
def parseUriListLine (rawLine : String) : UriListLineKind :=
  let line := trim rawLine
  if line.isEmpty || startsWith line "#" then
    .nonFile
  else
    match urlParse line with
    | none => .nonFile
    | some url =>
        if url.scheme ≠ "file" then
          .nonFile
        else
          match url.toFilePath with
          | none => .nonFile
          | some path => .file path

/-- The trimmed text is one URL without inner whitespace. -/
def isSingleUrl (text : String) : Bool :=
  let trimmed := trim text
  if trimmed.isEmpty then
    false
  else if trimmed.toList.any isWhitespace then
    false
  else
    (urlParse trimmed).isSome

/-- The entries of a `text/uri-list` body, without comments and blanks. -/
def parseUriList (content : String) : List String :=
  ((lines content).map trim).filter fun line =>
    !line.isEmpty && !startsWith line "#"

end Parsing

end OpenClipboard
