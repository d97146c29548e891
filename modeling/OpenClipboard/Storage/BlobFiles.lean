import OpenClipboard.Core.ContentHash
import OpenClipboard.Library.Table

/-!
# The files of the blob store

`FilesystemBlobStore` keeps a file under each blob id.  A write that fails may
leave part of the file, or all of it.
-/

namespace OpenClipboard

abbrev BlobFiles := Table String (List UInt8)

/-- A write that fails, with what it leaves under the file's name. -/
structure WriteFault where
  message : String
  left : Option (List UInt8)
  deriving DecidableEq, Repr

namespace FilesystemBlobStore

/-- What is under the blob's name after a failed write. -/
def leave (failed : WriteFault) (files : BlobFiles) (blobId : String) :
    BlobFiles :=
  match failed.left with
  | none => files
  | some bytes => files.put blobId bytes

def put (fault : Option WriteFault) (files : BlobFiles) (blobId : String)
    (data : List UInt8) : Except String String × BlobFiles :=
  match fault with
  | none => (.ok blobId, files.put blobId data)
  | some failed => (.error failed.message, leave failed files blobId)

structure StoredPathBlob where
  storagePath : String
  contentHash : Digest
  sizeBytes : Nat
  compressedSize : Option Nat
  deriving DecidableEq, Repr

/-- `put_from_path`, of a source with these bytes: linked or copied, and hashed
as it is stored. -/
def putFromPath (blake3 : Blake3) (fault : Option WriteFault)
    (files : BlobFiles) (blobId : String) (source : List UInt8) :
    Except String StoredPathBlob × BlobFiles :=
  match fault with
  | none =>
      (.ok ⟨blobId, blake3 source, source.length, none⟩,
        files.put blobId source)
  | some failed => (.error failed.message, leave failed files blobId)

def get (fault : Option String) (files : BlobFiles) (blobId : String) :
    Except String (List UInt8) :=
  match fault with
  | some message => .error message
  | none =>
      match files.find blobId with
      | some data => .ok data
      | none => .error "Failed to open blob file"

/-- Removing an absent file succeeds; a fault leaves the file. -/
def delete (fault : Option WriteFault) (files : BlobFiles)
    (blobId : String) : Except String Unit × BlobFiles :=
  match fault with
  | none => (.ok (), files.remove blobId)
  | some failed => (.error failed.message, files)

theorem find_leave_of_ne {failed : WriteFault} {files : BlobFiles}
    {blobId other : String} (different : other ≠ blobId) :
    (leave failed files blobId).find other = files.find other := by
  unfold leave
  cases failed.left with
  | none => rfl
  | some bytes => exact Table.find_put_of_ne different

theorem find_leave_self {failed : WriteFault} {files : BlobFiles}
    {blobId : String} (absent : files.find blobId = none) :
    (leave failed files blobId).find blobId = failed.left := by
  unfold leave
  cases failed.left with
  | none => exact absent
  | some bytes => exact Table.find_put_self

end FilesystemBlobStore

end OpenClipboard
