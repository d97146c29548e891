import OpenClipboard.Core.Path
import OpenClipboard.Core.ContentHash
import OpenClipboard.Library.FileTree

/-!
# The file system a capture reads

What the operating system shows under each path, as a tree: `lstat` of the
path is the tree's root, a directory listing is its entries.  A file system is
coherent: what a listing shows is what the extended path shows.
-/

namespace OpenClipboard

open FileTree

/-- What is not a listed directory. -/
inductive FsLeaf where
  | file (executable : Bool) (readable : Bool) (content : List UInt8)
  | symlink
  | special
  /-- A directory whose listing fails. -/
  | unlistable
  /-- An entry whose metadata cannot be read. -/
  | inaccessible
  deriving DecidableEq, Repr

abbrev FsTree := Tree Component FsLeaf

structure FileSystem where
  lookup : PathBuf → Option FsTree
  coherent : ∀ path entries, lookup path = some (.directory entries) →
    ∀ entry ∈ entries, lookup (path.push entry.1) = some entry.2

namespace FileSystem

/-- The file system with a given root directory. -/
def ofTree (tree : FsTree) (unique : tree.uniqueNames = true) :
    FileSystem where
  lookup path := if path.isAbsolute then tree.find path.components else none
  coherent := by
    intro path entries shown entry member
    by_cases absolute : path.isAbsolute = true
    · rw [if_pos absolute] at shown
      rw [if_pos (by simpa [PathBuf.isAbsolute, PathBuf.push] using absolute)]
      exact Tree.find_entry unique shown member
    · rw [if_neg absolute] at shown
      cases shown

def readFile (fs : FileSystem) (path : PathBuf) : Option (List UInt8) :=
  match fs.lookup path with
  | some (.leaf (.file _ true content)) => some content
  | _ => none

def hashPath (fs : FileSystem) (blake3 : Blake3) (path : PathBuf) :
    Option Digest :=
  (fs.readFile path).map (ContentHash.contentHash blake3)

def isDirectory (fs : FileSystem) (path : PathBuf) : Bool :=
  match fs.lookup path with
  | some (.directory _) => true
  | some (.leaf .unlistable) => true
  | _ => false

def isRegularFile (fs : FileSystem) (path : PathBuf) : Bool :=
  match fs.lookup path with
  | some (.leaf (.file _ _ _)) => true
  | _ => false

/-- The size `metadata` reports for a regular file. -/
def fileSize (fs : FileSystem) (path : PathBuf) : Option Nat :=
  match fs.lookup path with
  | some (.leaf (.file _ _ content)) => some content.length
  | _ => none

end FileSystem

end OpenClipboard
