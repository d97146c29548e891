import Mathlib.Data.List.Infix
import Mathlib.Logic.Relation
import OpenClipboard.Core.Path
import OpenClipboard.Library.Table

/-!
# The disk under the file cache

Files and directories, without symbolic links, and the calls that reach them by
path: a path is walked component by component, and `..` leads back up.
-/

namespace OpenClipboard

namespace PathBuf

/-- `Path::starts_with`, by whole components. -/
def startsWith (path base : PathBuf) : Bool :=
  match base.start with
  | .bare =>
      base.components.isEmpty ||
        (path.start == .bare && base.components.isPrefixOf path.components)
  | start =>
      path.start == start && base.components.isPrefixOf path.components

def parent (path : PathBuf) : Option PathBuf :=
  if path.components.isEmpty then
    if path.start = .current then some ⟨.bare, []⟩ else none
  else
    some { path with components := path.components.dropLast }

end PathBuf

namespace History

structure Name where
  component : Component
  notParent : component.isParent = false
  noNul : 0 ∉ component.bytes
  deriving DecidableEq

def Name.ofComponent (component : Component) : Option Name :=
  if valid : component.isParent = false ∧ 0 ∉ component.bytes then
    some ⟨component, valid.1, valid.2⟩
  else
    none

/-- The names from the root. -/
abbrev Location := List Name

def Location.path (location : Location) : PathBuf :=
  ⟨.root, location.map Name.component⟩

/-- A path as the operating system gets it: one that ends in a separator, or in
`.`, names a directory. -/
structure OsPath where
  path : PathBuf
  namesDirectory : Bool
  deriving DecidableEq, Repr

def OsPath.ofOsStr (raw : OsString) : OsPath where
  path := PathBuf.ofOsStr raw
  namesDirectory :=
    match (raw.splitOn 0x2F).getLast? with
    | some [] => true
    | some [0x2E] => true
    | _ => false

def Location.osPath (location : Location) : OsPath := ⟨location.path, false⟩

inductive FsNode where
  | file (sizeBytes : Nat) (modifiedUnixMs : Option Int)
  | directory
  deriving DecidableEq, Repr

/-- What is below the root, each in a directory. -/
structure Disk where
  nodes : Table Location FsNode
  parents : ∀ location name node, nodes.find (location ++ [name]) = some node →
    location = [] ∨ nodes.find location = some .directory

namespace Disk

variable (disk : Disk)

def node (location : Location) : Option FsNode :=
  if location = [] then some .directory else disk.nodes.find location

def isFile (location : Location) : Bool :=
  match disk.node location with
  | some (.file _ _) => true
  | _ => false

/-- The entries of a directory. -/
def children (location : Location) : List (Location × FsNode) :=
  disk.nodes.rows.filter fun row =>
    decide (row.1 ≠ [] ∧ row.1.dropLast = location)

def below (location : Location) : List Location :=
  (disk.nodes.rows.map Prod.fst).filter fun other =>
    decide (location <+: other)

theorem find_remove_below (location other : Location) :
    (disk.nodes.removeAll (disk.below location)).find other =
      if location <+: other then none else disk.nodes.find other := by
  rw [Table.find_removeAll]
  by_cases isBelow : location <+: other
  · rw [if_pos isBelow]
    cases found : disk.nodes.find other with
    | none => split <;> rfl
    | some node =>
        rw [if_pos]
        unfold below
        rw [List.mem_filter]
        exact ⟨List.mem_map.mpr ⟨_, Table.mem_rows_iff.mpr found, rfl⟩,
          decide_eq_true isBelow⟩
  · rw [if_neg isBelow, if_neg]
    intro member
    unfold below at member
    exact isBelow (of_decide_eq_true (List.mem_filter.mp member).2)

def without (location : Location) : Disk where
  nodes := disk.nodes.removeAll (disk.below location)
  parents := by
    intro parent name node found
    rw [disk.find_remove_below] at found ⊢
    split at found
    · cases found
    · rename_i kept
      rw [if_neg]
      · exact disk.parents parent name node found
      · intro isBelow
        exact kept (isBelow.trans (List.prefix_append parent [name]))

def walk : Location → List Component → Option Location
  | here, [] => some here
  | here, component :: rest =>
      if disk.node here = some .directory then
        if component.isParent then
          walk here.dropLast rest
        else
          match Name.ofComponent component with
          | some name => walk (here ++ [name]) rest
          | none => none
      else
        none

/-- Where an absolute path leads; no other path is asked for. -/
def resolve (path : PathBuf) : Option Location :=
  if path.isAbsolute then disk.walk [] path.components else none

/-- `try_exists`, of a path that can be looked up. -/
def pathExists (path : OsPath) : Bool :=
  match disk.resolve path.path with
  | none => false
  | some location =>
      match disk.node location with
      | none => false
      | some .directory => true
      | some (.file _ _) => !path.namesDirectory

/-- `remove_file`, or none where it fails. -/
def removeFile (path : OsPath) : Option Disk :=
  match disk.resolve path.path with
  | none => none
  | some location =>
      if disk.isFile location && !path.namesDirectory then
        some (disk.without location)
      else
        none

/-- `remove_dir`, or none where it fails: on what is no directory, is not empty
or is named through `..`. -/
def removeDir (path : PathBuf) : Option Disk :=
  match path.fileName, disk.resolve path with
  | some _, some location =>
      if disk.node location = some .directory ∧ disk.children location = []
      then
        some (disk.without location)
      else
        none
  | _, _ => none

end Disk

/-! ## What a disk shows after a removal -/

section Removal

variable {disk after : Disk} {location other : Location}

@[simp]
theorem Disk.node_nil : disk.node [] = some .directory := rfl

theorem Disk.node_of_ne (below : location ≠ []) :
    disk.node location = disk.nodes.find location := if_neg below

theorem Disk.node_without (below : location ≠ []) :
    (disk.without location).node other =
      if location <+: other then none else disk.node other := by
  by_cases isRoot : other = []
  · subst isRoot
    rw [if_neg (by simpa using below)]
    rfl
  · rw [Disk.node_of_ne isRoot, Disk.node_of_ne isRoot]
    exact disk.find_remove_below location other

theorem Disk.isFile_iff :
    disk.isFile location = true ↔
      ∃ sizeBytes modifiedUnixMs,
        disk.node location = some (.file sizeBytes modifiedUnixMs) := by
  unfold Disk.isFile
  split
  · rename_i sizeBytes modified isFile
    simp [isFile]
  · rename_i other
    constructor
    · intro isTrue
      cases isTrue
    · rintro ⟨sizeBytes, modified, isFile⟩
      exact absurd isFile (other sizeBytes modified)

theorem Disk.ne_nil_of_isFile (isFile : disk.isFile location = true) :
    location ≠ [] := by
  rintro rfl
  cases isFile

theorem Disk.node_eq_directory {name : Name}
    (occupied : disk.node (location ++ [name]) ≠ none) :
    disk.node location = some .directory := by
  rw [Disk.node_of_ne (by simp)] at occupied
  obtain ⟨node, found⟩ := Option.ne_none_iff_exists'.mp occupied
  rcases disk.parents location name node found with isRoot | isDirectory
  · rw [isRoot]
    rfl
  · by_cases isRoot : location = []
    · rw [isRoot]
      rfl
    · rw [Disk.node_of_ne isRoot, isDirectory]

theorem Disk.node_ne_none_of_append {rest : List Name}
    (occupied : disk.node (location ++ rest) ≠ none) :
    disk.node location ≠ none := by
  induction rest using List.reverseRecOn with
  | nil => simpa using occupied
  | append_singleton front last inductionHypothesis =>
      rw [← List.append_assoc] at occupied
      apply inductionHypothesis
      rw [Disk.node_eq_directory occupied]
      exact Option.some_ne_none _

theorem Disk.mem_children_iff {node : FsNode} :
    (other, node) ∈ disk.children location ↔
      ∃ name, other = location ++ [name] ∧ disk.node other = some node := by
  unfold Disk.children
  rw [List.mem_filter, Table.mem_rows_iff, decide_eq_true_eq]
  constructor
  · rintro ⟨found, below, isParent⟩
    refine ⟨other.getLast below, ?_, ?_⟩
    · rw [← isParent]
      exact (List.dropLast_append_getLast below).symm
    · rw [Disk.node_of_ne below]
      exact found
  · rintro ⟨name, isOther, found⟩
    subst isOther
    have below : location ++ [name] ≠ [] := by simp
    rw [Disk.node_of_ne below] at found
    exact ⟨found, below, List.dropLast_concat⟩

theorem Disk.children_eq_nil_iff :
    disk.children location = [] ↔
      ∀ name, disk.node (location ++ [name]) = none := by
  constructor
  · intro isEmpty name
    by_contra occupied
    obtain ⟨node, found⟩ := Option.ne_none_iff_exists'.mp occupied
    have member := Disk.mem_children_iff.mpr ⟨name, rfl, found⟩
    rw [isEmpty] at member
    cases member
  · intro absent
    rw [List.eq_nil_iff_forall_not_mem]
    rintro ⟨child, node⟩ member
    obtain ⟨name, isChild, found⟩ := Disk.mem_children_iff.mp member
    rw [isChild, absent name] at found
    cases found

theorem Disk.node_below_file (isFile : disk.isFile location = true)
    (isBelow : location <+: other) (different : other ≠ location) :
    disk.node other = none := by
  obtain ⟨rest, isOther⟩ := isBelow
  subst isOther
  induction rest using List.reverseRecOn with
  | nil => exact absurd (List.append_nil location) different
  | append_singleton front name inductionHypothesis =>
      by_contra occupied
      rw [← List.append_assoc] at occupied
      have isDirectory := Disk.node_eq_directory occupied
      by_cases isEmpty : front = []
      · subst isEmpty
        rw [List.append_nil] at isDirectory
        obtain ⟨_, _, isNode⟩ := Disk.isFile_iff.mp isFile
        rw [isNode] at isDirectory
        cases isDirectory
      · have absent := inductionHypothesis (by simpa using isEmpty)
        rw [absent] at isDirectory
        cases isDirectory

theorem Disk.removeFile_eq_some_iff {path : OsPath} :
    disk.removeFile path = some after ↔
      ∃ location, disk.resolve path.path = some location ∧
        disk.isFile location = true ∧ path.namesDirectory = false ∧
          after = disk.without location := by
  unfold Disk.removeFile
  cases disk.resolve path.path with
  | none => simp
  | some location =>
      simp only [Option.some.injEq, exists_eq_left']
      by_cases removable :
          (disk.isFile location && !path.namesDirectory) = true
      · rw [if_pos removable]
        simp only [Bool.and_eq_true, Bool.not_eq_true'] at removable
        simp [removable, eq_comm]
      · rw [if_neg removable]
        simp only [Bool.and_eq_true, Bool.not_eq_true', not_and] at removable
        constructor
        · intro impossible
          cases impossible
        · rintro ⟨isFile, bare, _⟩
          exact absurd bare (removable isFile)

theorem Disk.removeDir_eq_some {path : PathBuf}
    (removed : disk.removeDir path = some after) :
    ∃ location, disk.resolve path = some location ∧
      path.fileName.isSome = true ∧
        disk.node location = some .directory ∧
          disk.children location = [] ∧ after = disk.without location := by
  unfold Disk.removeDir at removed
  split at removed
  · rename_i name location named resolved
    split at removed
    · rename_i isEmpty
      cases removed
      refine ⟨location, resolved, ?_, isEmpty.1, isEmpty.2, rfl⟩
      rw [named]
      rfl
    · cases removed
  · cases removed

end Removal

end History

end OpenClipboard
