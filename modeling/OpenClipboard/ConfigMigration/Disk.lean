import Mathlib.Data.List.Infix
import OpenClipboard.ConfigMigration.Archive
import OpenClipboard.Library.Interruption

/-!
# An installation on disk

The files an import touches: the staging directory, the marker beside it, the
live files of the installation, and the secure storage.  An operation on a file
is cut off with any part of the new content written; removals, renames and the
secure storage take effect at once.
-/

namespace OpenClipboard.ConfigMigration

open Interruptible

/-- The files of a running installation, by what the program reads there. -/
inductive LivePath where
  | db
  | dbWal
  | dbShm
  | keyslot
  | deviceId
  | setupStatus
  | settings
  | irohIdentity (file : FileName)
  /-- `ui-state/` under the data root. -/
  | uiState (file : FileName)
  /-- A file of the data root itself. -/
  | dataRoot (file : FileName)
  deriving DecidableEq, Repr

/-- The live files and the secure storage. -/
@[ext]
structure Contents where
  file : LivePath → Option (List UInt8)
  secret : String → Option (List UInt8)

structure Disk where
  staging : Table String (List UInt8)
  marker : Option (List UInt8)
  markerTmp : Option (List UInt8)
  live : Table LivePath (List UInt8)
  secrets : Table String (List UInt8)

namespace Disk

def contents (disk : Disk) : Contents where
  file := disk.live.find
  secret := disk.secrets.find

def putStaging (member : String) (bytes : List UInt8) (disk : Disk) : Disk :=
  { disk with staging := disk.staging.put member bytes }

def removeStaging (member : String) (disk : Disk) : Disk :=
  { disk with staging := disk.staging.remove member }

def putMarkerTmp (bytes : List UInt8) (disk : Disk) : Disk :=
  { disk with markerTmp := some bytes }

def renameMarkerTmp (disk : Disk) : Disk :=
  { disk with marker := disk.markerTmp, markerTmp := none }

def removeMarker (disk : Disk) : Disk :=
  { disk with marker := none }

def putLive (path : LivePath) (bytes : List UInt8) (disk : Disk) : Disk :=
  { disk with live := disk.live.put path bytes }

def removeLive (path : LivePath) (disk : Disk) : Disk :=
  { disk with live := disk.live.remove path }

def putSecret (key : String) (bytes : List UInt8) (disk : Disk) : Disk :=
  { disk with secrets := disk.secrets.put key bytes }

def isStagedDirectory (disk : Disk) (member : String) : Bool :=
  disk.staging.keys.any fun key => (member ++ "/").toList.isPrefixOf key.toList

/-- `src.exists()` for a member of the staging directory. -/
def stagedExists (disk : Disk) (member : String) : Bool :=
  (disk.staging.find member).isSome || disk.isStagedDirectory member

/-- A component of the path is a file, or the path is a directory. -/
def blocksMember (disk : Disk) (member : String) : Bool :=
  disk.isStagedDirectory member ||
    disk.staging.keys.any fun key =>
      (key ++ "/").toList.isPrefixOf member.toList

end Disk

/-! ## Operations -/

section Operations

variable {ε : Type}

/-- A write is cut off after any part of the bytes. -/
def writing (put : List UInt8 → Disk → Disk) (bytes : List UInt8) :
    Interruptible Disk ε Unit :=
  passing (fun disk => bytes.inits.map fun part => put part disk) (put bytes)

theorem meets_writing {put : List UInt8 → Disk → Disk} {bytes : List UInt8}
    {disk : Disk} {returns : Unit → Disk → Prop} {fails : ε → Disk → Prop}
    {stops : Disk → Prop}
    (holds : returns () (put bytes disk)) (here : stops disk)
    (part : ∀ some, stops (put some disk)) :
    Meets (writing put bytes : Interruptible Disk ε Unit) disk returns fails
      stops := by
  apply meets_passing holds here
  intro state member
  obtain ⟨written, _, isState⟩ := List.mem_map.mp member
  rw [← isState]
  exact part written

structure DirectoryOrder where
  list : List String → List String
  perm : ∀ names, (list names).Perm names

def DirectoryOrder.asMade : DirectoryOrder where
  list := id
  perm := List.Perm.refl

/-- `remove_dir_all` on the staging directory. -/
def removeStagingDir (order : DirectoryOrder) : Interruptible Disk ε Unit := do
  let disk ← look
  forEach (fun member => atomic (Disk.removeStaging member))
    (order.list disk.staging.keys)

end Operations

end OpenClipboard.ConfigMigration
