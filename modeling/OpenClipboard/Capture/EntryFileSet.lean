import OpenClipboard.Capture.FileSystem
import OpenClipboard.Core.FileSet
import OpenClipboard.Core.Snapshot

/-!
# Building the manifest of a captured snapshot

`buildEntryFileSet` takes the top-level members from the `LocalFile`
representations, or else from the first decodable file-class representation,
expands selected directories breadth first under the file-set caps, and hashes
every file.  A traversal that fails makes every pending line `Excluded`.
-/

namespace OpenClipboard

open FileTree Text

/-- The normalization crate: NFC is idempotent, deletes no text and creates no
separator. -/
structure UnicodeNormalization where
  nfc : String → String
  nfc_idempotent : ∀ text, nfc (nfc text) = nfc text
  nfc_nonempty : ∀ text, text ≠ "" → nfc text ≠ ""
  nfc_noSeparator : ∀ text : String, '/' ∉ text.toList →
    '/' ∉ (nfc text).toList

/-- Whole-set capture caps; zero disables a cap. -/
structure FileSetCaps where
  maxTotalBytes : Nat
  maxMemberCount : Nat
  deriving DecidableEq, Repr

structure TopLevelFileMember where
  lineIndex : Int
  rootIndex : Int
  originalText : String
  rootName : String
  path : PathBuf
  knownSize : Option Nat
  deriving DecidableEq, Repr

structure PendingFileSetLine where
  lineIndex : Int
  originalText : String
  memberLocation : FileSetMemberLocation
  filePath : Option PathBuf
  deriving DecidableEq, Repr

inductive ExpansionFailure where
  | sizeCapExceeded
  | unsupportedMember
  | ingestFailed
  deriving DecidableEq, Repr

def ExpansionFailure.excludeReason :
    ExpansionFailure → EntryFileSetExcludeReason
  | .sizeCapExceeded => .sizeCapExceeded
  | .unsupportedMember => .unsupportedMember
  | .ingestFailed => .ingestFailed

def u64Max : Nat := 2 ^ 64 - 1

structure TraversalBudget where
  memberCount : Nat := 0
  totalBytes : Nat := 0
  deriving DecidableEq, Repr

namespace TraversalBudget

/-- Count one member, saturating. -/
def spend (budget : TraversalBudget) (sizeBytes : Nat) : TraversalBudget where
  memberCount := min (budget.memberCount + 1) u64Max
  totalBytes := min (budget.totalBytes + sizeBytes) u64Max

def exceeds (budget : TraversalBudget) (caps : FileSetCaps) : Bool :=
  (decide (0 < caps.maxMemberCount) &&
      decide (caps.maxMemberCount < budget.memberCount)) ||
    (decide (0 < caps.maxTotalBytes) &&
      decide (caps.maxTotalBytes < budget.totalBytes))

end TraversalBudget

/-- The two variables that the traversal threads through. -/
structure TraversalState where
  nextLineIndex : Int
  budget : TraversalBudget := {}
  deriving DecidableEq, Repr

namespace TraversalState

def takeLineIndex (state : TraversalState) : TraversalState :=
  { state with nextLineIndex := state.nextLineIndex + 1 }

/-- The budget check of one member: the new state and whether a cap is exceeded. -/
def admits (state : TraversalState) (sizeBytes : Nat) (caps : FileSetCaps) :
    TraversalState × Bool :=
  let budget := state.budget.spend sizeBytes
  ({ state with budget := budget }, budget.exceeds caps)

end TraversalState

def memberKind (executable : Bool) : FileSetMemberKind :=
  if executable then .executable else .file

section Capture

variable (unicode : UnicodeNormalization)

def normalizedBasename (path : PathBuf) : String :=
  match path.fileName with
  | some name => unicode.nfc (toStringLossy name.bytes)
  | none => "."

/-! ## Pending lines -/

def pendingFlatFile (root : TopLevelFileMember) (executable : Bool) :
    PendingFileSetLine where
  lineIndex := root.lineIndex
  originalText := root.originalText
  memberLocation := {
    rootIndex := root.rootIndex
    rootName := root.rootName
    relativePath := normalizedBasename unicode root.path
    kind := memberKind executable }
  filePath := some root.path

def pendingMissingFile (root : TopLevelFileMember) : PendingFileSetLine :=
  pendingFlatFile unicode root false

def pendingRootMarker (root : TopLevelFileMember) (lineIndex : Int) :
    PendingFileSetLine where
  lineIndex := lineIndex
  originalText := root.originalText
  memberLocation := {
    rootIndex := root.rootIndex
    rootName := root.rootName
    relativePath := "."
    kind := .file }
  filePath := none

def excludedRootLine (root : TopLevelFileMember)
    (reason : EntryFileSetExcludeReason) : EntryFileSetLine where
  lineIndex := root.lineIndex
  originalText := root.originalText
  memberLocation := some {
    rootIndex := root.rootIndex
    rootName := root.rootName
    relativePath := normalizedBasename unicode root.path
    kind := .file }
  kind := .excluded reason

def directoryMember (root : TopLevelFileMember) (lineIndex : Int)
    (relativePath : String) (kind : FileSetMemberKind)
    (filePath : Option PathBuf) : PendingFileSetLine where
  lineIndex := lineIndex
  originalText := root.originalText
  memberLocation := {
    rootIndex := root.rootIndex
    rootName := root.rootName
    relativePath := relativePath
    kind := kind }
  filePath := filePath

def directoryRelativePath (relativeDirectory : String) : String :=
  if relativeDirectory = "" then "." else relativeDirectory

def directoryMarker (root : TopLevelFileMember) (lineIndex : Int)
    (relativePath : String) : PendingFileSetLine :=
  directoryMember root lineIndex (directoryRelativePath relativePath) .file
    none

/-! ## Expanding a directory -/

structure QueuedDirectory where
  path : PathBuf
  relative : String
  tree : FsTree

/-- `entries.sort_by_key(|entry| entry.file_name())`. -/
def sortByFileName (entries : List (Component × FsTree)) :
    List (Component × FsTree) :=
  entries.insertionSort fun left right =>
    left.1.bytes.map UInt8.toNat ≤ right.1.bytes.map UInt8.toNat

def extendRelative (relativeDirectory name : String) : String :=
  if relativeDirectory = "" then name else relativeDirectory ++ "/" ++ name

abbrev ExpansionError := ExpansionFailure × PendingFileSetLine

/-- The loop over the entries of one directory: the members found, the
subdirectories to queue and the state after it. -/
def expandEntries (root : TopLevelFileMember) (caps : FileSetCaps)
    (directory : PathBuf) (relativeDirectory : String) :
    List (Component × FsTree) → TraversalState →
      Except ExpansionError
        (List PendingFileSetLine × List QueuedDirectory × TraversalState)
  | [], state => .ok ([], [], state)
  | (fileName, tree) :: rest, state =>
      match fileName.toStr with
      | none =>
          .error (.unsupportedMember,
            directoryMarker root state.nextLineIndex relativeDirectory)
      | some name =>
          let relativePath := extendRelative relativeDirectory
            (unicode.nfc name)
          let path := directory.push fileName
          let refuse (failure : ExpansionFailure) :=
            (failure, directoryMarker root state.nextLineIndex relativePath)
          let enqueue :=
            match expandEntries root caps directory relativeDirectory rest
                state with
            | .error err => .error err
            | .ok (members, queued, after) =>
                .ok (members, ⟨path, relativePath, tree⟩ :: queued, after)
          match tree with
          | .leaf .inaccessible => .error (refuse .ingestFailed)
          | .leaf .symlink => .error (refuse .unsupportedMember)
          | .directory _ => enqueue
          | .leaf .unlistable => enqueue
          | .leaf .special => .error (refuse .unsupportedMember)
          | .leaf (.file executable _ content) =>
              let member := directoryMember root state.nextLineIndex
                relativePath (memberKind executable) (some path)
              let (admitted, exceeded) :=
                state.takeLineIndex.admits content.length caps
              if exceeded then
                .error (.sizeCapExceeded, member)
              else
                match expandEntries root caps directory relativeDirectory
                    rest admitted with
                | .error err => .error err
                | .ok (members, queued, after) =>
                    .ok (member :: members, queued, after)

/-- The traversal loop; each turn reads one queued directory.  Without fuel it
refuses, which enough fuel excludes. -/
def expandQueue (root : TopLevelFileMember) (caps : FileSetCaps) :
    Nat → List QueuedDirectory → TraversalState →
      Except ExpansionError (List PendingFileSetLine × TraversalState)
  | _, [], state => .ok ([], state)
  | 0, head :: _, state =>
      .error (.ingestFailed,
        directoryMarker root state.nextLineIndex head.relative)
  | fuel + 1, head :: queue, state =>
      match head.tree with
      | .leaf _ =>
          .error (.ingestFailed,
            directoryMarker root state.nextLineIndex head.relative)
      | .directory listing =>
          let entries := sortByFileName listing
          if entries.isEmpty then
            let marker := directoryMember root state.nextLineIndex
              (directoryRelativePath head.relative) .emptyDirectory none
            let (admitted, exceeded) := state.takeLineIndex.admits 0 caps
            if exceeded then
              .error (.sizeCapExceeded, marker)
            else
              match expandQueue root caps fuel queue admitted with
              | .error err => .error err
              | .ok (members, after) => .ok (marker :: members, after)
          else
            match expandEntries unicode root caps head.path head.relative
                entries state with
            | .error err => .error err
            | .ok (found, queued, next) =>
                match expandQueue root caps fuel (queue ++ queued) next with
                | .error err => .error err
                | .ok (members, after) => .ok (found ++ members, after)

def expandDirectory (root : TopLevelFileMember) (caps : FileSetCaps)
    (tree : FsTree) (state : TraversalState) :
    Except ExpansionError (List PendingFileSetLine × TraversalState) :=
  expandQueue unicode root caps (tree.directoryCount + 1)
    [⟨root.path, "", tree⟩] state

/-! ## Building the lines -/

/-- The loop over the selected roots: the pending lines and, after a failure,
its reason and the roots that were not reached. -/
def traverseRoots (fs : FileSystem) (caps : FileSetCaps) :
    List TopLevelFileMember → TraversalState →
      List PendingFileSetLine ×
        Option (ExpansionFailure × List TopLevelFileMember)
  | [], _ => ([], none)
  | root :: rest, state =>
      let stop (failure : ExpansionFailure) (line : PendingFileSetLine) :=
        ([line], some (failure, rest))
      let expand (tree : FsTree) :=
        match expandDirectory unicode root caps tree state with
        | .error (failure, marker) => stop failure marker
        | .ok (members, after) =>
            let later := traverseRoots fs caps rest after
            (members ++ later.1, later.2)
      let flat (line : PendingFileSetLine) (sizeBytes : Nat) :=
        let (admitted, exceeded) := state.admits sizeBytes caps
        if exceeded then
          stop .sizeCapExceeded line
        else
          let later := traverseRoots fs caps rest admitted
          (line :: later.1, later.2)
      match fs.lookup root.path with
      | some (.leaf .symlink) =>
          stop .unsupportedMember (pendingRootMarker root state.nextLineIndex)
      | some (.directory entries) => expand (.directory entries)
      | some (.leaf .unlistable) => expand (.leaf .unlistable)
      | some (.leaf (.file executable _ content)) =>
          flat (pendingFlatFile unicode root executable)
            (root.knownSize.getD content.length)
      | some (.leaf .special) =>
          stop .unsupportedMember (pendingRootMarker root state.nextLineIndex)
      | some (.leaf .inaccessible) =>
          flat (pendingMissingFile unicode root) (root.knownSize.getD 0)
      | none =>
          flat (pendingMissingFile unicode root) (root.knownSize.getD 0)

def classifyFilePath (fs : FileSystem) (blake3 : Blake3) (path : PathBuf)
    (overCap : Bool) : EntryFileSetLineKind :=
  if overCap then
    .excluded .sizeCapExceeded
  else
    match fs.hashPath blake3 path with
    | some contentHash => .file contentHash none none
    | none => .excluded .ingestFailed

/-- The manifest line of a pending line of a complete traversal. -/
def classifyPending (fs : FileSystem) (blake3 : Blake3)
    (pending : PendingFileSetLine) : EntryFileSetLine where
  lineIndex := pending.lineIndex
  originalText := pending.originalText
  memberLocation := some pending.memberLocation
  kind :=
    match pending.filePath with
    | some path => classifyFilePath fs blake3 path false
    | none => .nonFile

def excludePending (reason : EntryFileSetExcludeReason)
    (pending : PendingFileSetLine) : EntryFileSetLine where
  lineIndex := pending.lineIndex
  originalText := pending.originalText
  memberLocation := some pending.memberLocation
  kind := .excluded reason

/-- A root that the traversal did not reach. -/
def pendingUnreached (root : TopLevelFileMember) : PendingFileSetLine :=
  { pendingFlatFile unicode root false with filePath := none }

/-- `lines.sort_by_key(|line| line.line_index)`, a stable sort. -/
def sortByLineIndex (lines : List EntryFileSetLine) : List EntryFileSetLine :=
  lines.insertionSort fun left right => left.lineIndex ≤ right.lineIndex

def buildFileMemberLines (fs : FileSystem) (blake3 : Blake3)
    (roots : List TopLevelFileMember) (lines : List EntryFileSetLine)
    (topLevelCount : Int) (caps : FileSetCaps) : List EntryFileSetLine :=
  if 0 < caps.maxMemberCount ∧ caps.maxMemberCount < roots.length then
    sortByLineIndex <| lines ++ roots.map fun root =>
      excludedRootLine unicode root .sizeCapExceeded
  else
    let traversed := traverseRoots unicode fs caps roots
      { nextLineIndex := topLevelCount }
    match traversed.2 with
    | some (failure, unreached) =>
        let pending :=
          traversed.1 ++ unreached.map (pendingUnreached unicode)
        sortByLineIndex <|
          lines ++ pending.map (excludePending failure.excludeReason)
    | none =>
        sortByLineIndex <|
          lines ++ traversed.1.map (classifyPending fs blake3)

/-! ## Top-level members -/

/-- The paths of the `LocalFile` representations, with their sizes. -/
def localFiles (snapshot : SystemClipboardSnapshot) : List (PathBuf × Nat) :=
  snapshot.representations.filterMap fun rep =>
    match rep.source with
    | .localFile path sizeBytes => some (path, sizeBytes.toNat)
    | .inline _ => none

/-- Top-level members made of `LocalFile` representations. -/
def localFileMembers (snapshot : SystemClipboardSnapshot) :
    List TopLevelFileMember :=
  (localFiles snapshot).mapIdx fun index file => {
    lineIndex := index
    rootIndex := index
    originalText := file.1.display
    rootName := normalizedBasename unicode file.1
    path := file.1
    knownSize := some file.2 }

/-- The text of the first file-class representation that decodes. -/
def uriListText (snapshot : SystemClipboardSnapshot) : Option String :=
  snapshot.representations.findSome? fun rep =>
    if isFileMimeOrFormat rep.mime rep.formatId then
      rep.inlineBytes.bind fromUtf8
    else
      none

/-- The file lines of a `uri-list`, from a given line and root index on. -/
def uriListMembers (urlParse : UrlParse) :
    List String → Int → Int → List TopLevelFileMember
  | [], _, _ => []
  | rawLine :: rest, lineIndex, rootIndex =>
      match parseUriListLine urlParse rawLine with
      | .file path =>
          { lineIndex := lineIndex
            rootIndex := rootIndex
            originalText := rawLine
            rootName := normalizedBasename unicode path
            path := path
            knownSize := none } ::
            uriListMembers urlParse rest (lineIndex + 1) (rootIndex + 1)
      | .nonFile => uriListMembers urlParse rest (lineIndex + 1) rootIndex

/-- The other lines of a `uri-list`. -/
def nonFileLines (urlParse : UrlParse) :
    List String → Int → List EntryFileSetLine
  | [], _ => []
  | rawLine :: rest, lineIndex =>
      match parseUriListLine urlParse rawLine with
      | .file _ => nonFileLines urlParse rest (lineIndex + 1)
      | .nonFile =>
          { lineIndex := lineIndex
            originalText := rawLine
            memberLocation := none
            kind := .nonFile } :: nonFileLines urlParse rest (lineIndex + 1)

/-- What a snapshot selects: its roots, the lines that are no files, and how
many top-level lines there are. -/
structure Selection where
  roots : List TopLevelFileMember
  otherLines : List EntryFileSetLine
  topLevelCount : Nat
  deriving DecidableEq, Repr

def selectTopLevel (urlParse : UrlParse)
    (snapshot : SystemClipboardSnapshot) : Option Selection :=
  let localMembers := localFileMembers unicode snapshot
  if localMembers.isEmpty then
    (uriListText snapshot).map fun text => {
      roots := uriListMembers unicode urlParse (lines text) 0 0
      otherLines := nonFileLines urlParse (lines text) 0
      topLevelCount := (lines text).length }
  else
    some {
      roots := localMembers
      otherLines := []
      topLevelCount := localMembers.length }

/-- The manifest of a captured snapshot. -/
def buildEntryFileSet (fs : FileSystem) (blake3 : Blake3)
    (urlParse : UrlParse) (caps : FileSetCaps)
    (snapshot : SystemClipboardSnapshot) : Option EntryFileSet :=
  (selectTopLevel unicode urlParse snapshot).map fun selection => {
    lines := buildFileMemberLines unicode fs blake3 selection.roots
      selection.otherLines selection.topLevelCount caps }

end Capture

end OpenClipboard
