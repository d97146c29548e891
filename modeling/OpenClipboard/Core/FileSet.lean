import OpenClipboard.Core.ContentHash

/-!
# The file-set manifest of an entry

One line for every line of the original file list, and one for every member
that a selected directory was expanded to.  Whether a root was a directory is
not stored: it is recovered from the kinds, relative paths and line indexes of
the root's lines.
-/

namespace OpenClipboard

open Text

inductive FileSetMemberKind where
  | file
  | executable
  | emptyDirectory
  deriving DecidableEq, Repr

namespace FileSetMemberKind

def asTag : FileSetMemberKind → String
  | .file => "f"
  | .executable => "x"
  | .emptyDirectory => "d"

def fromTag (tag : String) : Option FileSetMemberKind :=
  if tag = "f" then some .file
  else if tag = "x" then some .executable
  else if tag = "d" then some .emptyDirectory
  else none

end FileSetMemberKind

structure FileSetMemberLocation where
  rootIndex : Int
  rootName : String
  relativePath : String
  kind : FileSetMemberKind
  deriving DecidableEq, Repr

inductive EntryFileSetExcludeReason where
  | sizeCapExceeded
  | ingestFailed
  | unsupportedMember
  deriving DecidableEq, Repr

inductive EntryFileSetLineKind where
  | file (contentHash : Digest) (blobId : Option String)
      (sizeBytes : Option Int)
  | nonFile
  | excluded (reason : EntryFileSetExcludeReason)
  deriving DecidableEq, Repr

namespace EntryFileSetLineKind

def isExcluded : EntryFileSetLineKind → Bool
  | .excluded _ => true
  | _ => false

def isFile : EntryFileSetLineKind → Bool
  | .file _ _ _ => true
  | _ => false

/-- The content hash of a `File` line. -/
def contentHash? : EntryFileSetLineKind → Option Digest
  | .file contentHash _ _ => some contentHash
  | _ => none

end EntryFileSetLineKind

structure EntryFileSetLine where
  lineIndex : Int
  originalText : String
  memberLocation : Option FileSetMemberLocation
  kind : EntryFileSetLineKind
  deriving DecidableEq, Repr

def EntryFileSetLine.indicatesDirectoryRoot
    (line : EntryFileSetLine) (rowCount : Int) : Bool :=
  line.memberLocation.any fun location =>
    location.kind == .emptyDirectory ||
      contains location.relativePath "/" ||
      decide (rowCount ≤ line.lineIndex)

theorem EntryFileSetLine.indicatesDirectoryRoot_iff
    {line : EntryFileSetLine} {rowCount : Int} :
    line.indicatesDirectoryRoot rowCount = true ↔
      ∃ location, line.memberLocation = some location ∧
        (location.kind = .emptyDirectory ∨
          '/' ∈ location.relativePath.toList ∨
            rowCount ≤ line.lineIndex) := by
  unfold EntryFileSetLine.indicatesDirectoryRoot
  cases line.memberLocation with
  | none => simp
  | some location => simp [or_assoc]

structure EntryFileSet where
  lines : List EntryFileSetLine
  deriving DecidableEq, Repr

namespace EntryFileSet

def rowCount (fileSet : EntryFileSet) : Int :=
  fileSet.lines.length

def hasExcluded (fileSet : EntryFileSet) : Bool :=
  fileSet.lines.any fun line => line.kind.isExcluded

def hasDirectoryStructure (fileSet : EntryFileSet) : Bool :=
  fileSet.lines.any fun line => line.indicatesDirectoryRoot fileSet.rowCount

def fileLines (fileSet : EntryFileSet) : List EntryFileSetLine :=
  fileSet.lines.filter fun line => line.kind.isFile

/-- The sorted content hashes of the `File` lines, none for an incomplete set
or a directory set. -/
def contentDigestContribution (fileSet : EntryFileSet) : List Digest :=
  if fileSet.hasExcluded || fileSet.hasDirectoryStructure then
    []
  else
    sortDigests (fileSet.lines.filterMap fun line => line.kind.contentHash?)

/-- What one line adds to the structured component: nothing, a leaf, or a
refusal of the whole component. -/
def componentLeaf (blake3 : Blake3) (line : EntryFileSetLine) :
    Option (Option Digest) :=
  match line.memberLocation, line.kind with
  | none, .nonFile => some none
  | none, _ => none
  | some location, kind =>
      match kind, location.kind with
      | .file contentHash _ _, .file =>
          some (some (ContentHash.fileSetMemberV1 blake3 location.rootName
            location.relativePath location.kind.asTag (some contentHash)))
      | .file contentHash _ _, .executable =>
          some (some (ContentHash.fileSetMemberV1 blake3 location.rootName
            location.relativePath location.kind.asTag (some contentHash)))
      | .nonFile, .emptyDirectory =>
          some (some (ContentHash.fileSetMemberV1 blake3 location.rootName
            location.relativePath location.kind.asTag none))
      | _, _ => none

def fileSetV1Component (blake3 : Blake3) (fileSet : EntryFileSet) :
    Option Digest :=
  if !fileSet.hasDirectoryStructure || fileSet.hasExcluded then
    none
  else
    match fileSet.lines.mapM (componentLeaf blake3) with
    | none => none
    | some found =>
        let leaves := found.filterMap id
        if leaves.isEmpty then
          none
        else
          some (ContentHash.fileSetV1Wrapper blake3 leaves)

def directoryRoots (fileSet : EntryFileSet) : List Int :=
  (fileSet.lines.filter fun line =>
      line.indicatesDirectoryRoot fileSet.rowCount).filterMap fun line =>
    line.memberLocation.map FileSetMemberLocation.rootIndex

/-- The mark that the outbound path puts on the members of a root. -/
def rootIsFile (fileSet : EntryFileSet) (rootIndex : Int) : Bool :=
  !fileSet.directoryRoots.contains rootIndex

theorem mem_directoryRoots_iff
    {fileSet : EntryFileSet} {rootIndex : Int} :
    rootIndex ∈ fileSet.directoryRoots ↔
      ∃ line ∈ fileSet.lines,
        line.indicatesDirectoryRoot fileSet.rowCount = true ∧
          line.memberLocation.map FileSetMemberLocation.rootIndex =
            some rootIndex := by
  simp only [directoryRoots, List.mem_filterMap, List.mem_filter, and_assoc]

theorem hasDirectoryStructure_iff {fileSet : EntryFileSet} :
    fileSet.hasDirectoryStructure = true ↔ fileSet.directoryRoots ≠ [] := by
  constructor
  · intro structured
    obtain ⟨line, member, indicates⟩ := List.any_eq_true.mp structured
    cases located : line.memberLocation with
    | none => simp [EntryFileSetLine.indicatesDirectoryRoot, located]
        at indicates
    | some location =>
        have inRoots : location.rootIndex ∈ fileSet.directoryRoots :=
          mem_directoryRoots_iff.mpr
            ⟨line, member, indicates, by rw [located]; rfl⟩
        exact List.ne_nil_of_mem inRoots
  · intro nonempty
    obtain ⟨rootIndex, inRoots⟩ := List.exists_mem_of_ne_nil _ nonempty
    obtain ⟨line, member, indicates, _⟩ := mem_directoryRoots_iff.mp inRoots
    exact List.any_eq_true.mpr ⟨line, member, indicates⟩

end EntryFileSet

end OpenClipboard
