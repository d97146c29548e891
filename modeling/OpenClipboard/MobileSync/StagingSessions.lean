import OpenClipboard.Library.Transition
import OpenClipboard.MobileSync.Staging

/-!
# Staging sessions

A body that arrives in chunks is staged in a session: a file is created below
the scope's directory, the chunks are appended to it, and the handle is
consumed by a finalize or an abort.  Sessions run side by side, with one file
operation of one session at a time.  No save directory is configured.
-/

namespace OpenClipboard.StagingSessions

open Transition MobileSync

/-! ## The disk -/

/-- Names for inodes, so that a file stays what its handles refer to when
another one takes its name.  Making a directory, and removing an empty one,
changes no file. -/
structure Disk where
  names : Table PathBuf Nat
  data : Table Nat (List UInt8)
  used : Nat

namespace Disk

/-- `File::create`: an existing file is truncated. -/
def create (disk : Disk) (path : PathBuf) : Nat × Disk :=
  match disk.names.find path with
  | some inode => (inode, { disk with data := disk.data.put inode [] })
  | none => (disk.used, {
      names := disk.names.put path disk.used
      data := disk.data.put disk.used []
      used := disk.used + 1 })

/-- Bytes written at an offset; a gap is filled with zeros. -/
def overwrite (old : List UInt8) (offset : Nat) (bytes : List UInt8) :
    List UInt8 :=
  (old ++ List.replicate (offset - old.length) 0).take offset ++ bytes ++
    old.drop (offset + bytes.length)

def writeAt (disk : Disk) (inode offset : Nat) (bytes : List UInt8) : Disk :=
  { disk with
    data := disk.data.put inode
      (overwrite ((disk.data.find inode).getD []) offset bytes) }

def remove (disk : Disk) (path : PathBuf) : Disk :=
  { disk with names := disk.names.remove path }

def read (disk : Disk) (path : PathBuf) : Option (List UInt8) :=
  (disk.names.find path).bind disk.data.find

end Disk

/-- An operation that fails; a write may have come some way before. -/
structure Fault where
  message : String
  left : Option Nat
  /-- The failure shows only at the next operation on the file. -/
  later : Bool
  deriving DecidableEq, Repr

/-- A `tokio::fs::File`; `pending` is the error of a write that has returned
before it ended. -/
structure File where
  inode : Nat
  offset : Nat
  pending : Option String

/-! ## Sessions -/

/-- How far a `begin_stage` and its session, or a `stage_file`, has come.  The
session is in `open_sessions` while it is `opened`. -/
inductive Phase where
  | createDir (body : Option (List UInt8))
  | createFile
  | insertSession (file : File)
  | opened (file : File)
  | flush (file : File)
  | syncAll (file : File)
  | finalized (staged : StagedFile)
  | lost (message : String)
  | removeFile
  | removeDir
  | aborted
  | writeFile (bytes : List UInt8)
  | removePartial (message : String)
  | staged (staged : StagedFile) (bytes : List UInt8)
  | failed (message : String)

/-- `appended` are the chunks whose appends have returned without an error;
`broken` tells that one has failed. -/
structure Upload where
  resolved : ResolvedWritePath
  phase : Phase
  appended : List UInt8
  broken : Bool

def Upload.path (upload : Upload) : PathBuf := upload.resolved.path.path

def Upload.goto (upload : Upload) (phase : Phase) : Upload :=
  { upload with phase := phase }

structure Staging where
  disk : Disk
  uploads : Table String Upload
  consumed : List String

def Staging.empty : Staging := ⟨⟨∅, ∅, 0⟩, ∅, []⟩

def Staging.update (staging : Staging) (token : String) (disk : Disk)
    (upload : Upload) : Staging :=
  { staging with disk := disk, uploads := staging.uploads.put token upload }

section Steps

variable (env : StagingEnv)

/-- `resolve_write_path` without a save directory. -/
def managedPath (scopeId dataName : String) : ResolvedWritePath :=
  resolveWritePath env {
    dataName := dataName
    scope := scopeId
    reserved := none
    mime := ""
    bytes := []
    transferId := ""
    failure := none }

def beginUpload (scopeId dataName : String) (body : Option (List UInt8)) :
    Upload :=
  ⟨managedPath env scopeId dataName, .createDir body, [], false⟩

/-- `path_to_file_uri`, at the end of both calls. -/
def stagedFile (upload : Upload) : Option StagedFile :=
  (env.urls.fromFilePath upload.path).map fun uri =>
    ⟨uri, upload.resolved.name⟩

/-- The next file operation of an upload. -/
def advance (disk : Disk) (upload : Upload) (fault : Option Fault) :
    Phase → Option (Disk × Upload)
  | .createDir body =>
      match fault, body with
      | some failure, _ => some (disk, upload.goto (.failed failure.message))
      | none, none => some (disk, upload.goto .createFile)
      | none, some bytes => some (disk, upload.goto (.writeFile bytes))
  | .createFile =>
      match fault with
      | some failure => some (disk, upload.goto (.failed failure.message))
      | none =>
          some ((disk.create upload.path).2, { upload with
            phase := .insertSession ⟨(disk.create upload.path).1, 0, none⟩
            appended := [] })
  | .insertSession file => some (disk, upload.goto (.opened file))
  | .flush file =>
      match file.pending, fault with
      | some message, _ => some (disk, upload.goto (.lost message))
      | none, some failure => some (disk, upload.goto (.lost failure.message))
      | none, none => some (disk, upload.goto (.syncAll file))
  | .syncAll _ =>
      match fault, stagedFile env upload with
      | some failure, _ => some (disk, upload.goto (.lost failure.message))
      | none, some staged => some (disk, upload.goto (.finalized staged))
      | none, none =>
          some (disk, upload.goto (.lost "failed to convert path to file URI"))
  | .removeFile =>
      match fault with
      | some _ => some (disk, upload.goto .removeDir)
      | none => some (disk.remove upload.path, upload.goto .removeDir)
  | .removeDir => some (disk, upload.goto .aborted)
  | .writeFile bytes =>
      match fault with
      | some failure =>
          match failure.left with
          | none => some (disk, upload.goto (.removePartial failure.message))
          | some written =>
              some ((disk.create upload.path).2.writeAt
                  (disk.create upload.path).1 0 (bytes.take written),
                upload.goto (.removePartial failure.message))
      | none =>
          some ((disk.create upload.path).2.writeAt
              (disk.create upload.path).1 0 bytes,
            upload.goto (match stagedFile env upload with
              | some staged => .staged staged bytes
              | none => .failed "failed to convert path to file URI"))
  | .removePartial message =>
      match fault with
      | some _ => some (disk, upload.goto (.failed message))
      | none => some (disk.remove upload.path, upload.goto (.failed message))
  | .opened _ | .finalized _ | .lost _ | .aborted | .staged _ _ | .failed _ =>
      none

/-- `append_stage_chunk` on an open session; the error of an earlier write is
returned instead of the write. -/
def appendChunk (disk : Disk) (upload : Upload) (file : File)
    (chunk : List UInt8) (fault : Option Fault) : Disk × Upload :=
  match file.pending, fault with
  | some _, _ =>
      (disk, { upload with
        phase := .opened { file with pending := none }
        broken := true })
  | none, none =>
      (disk.writeAt file.inode file.offset chunk, { upload with
        phase := .opened { file with offset := file.offset + chunk.length }
        appended := upload.appended ++ chunk })
  | none, some failure =>
      let written := chunk.take (failure.left.getD 0)
      let moved := { file with offset := file.offset + written.length }
      (disk.writeAt file.inode file.offset written,
        if failure.later then { upload with
          phase := .opened { moved with pending := some failure.message }
          appended := upload.appended ++ chunk }
        else { upload with phase := .opened moved, broken := true })

end Steps

inductive Action where
  | beginStage (token scopeId dataName : String)
  | stageFile (token scopeId dataName : String) (bytes : List UInt8)
  | advance (token : String) (fault : Option Fault)
  | appendStageChunk (token : String) (chunk : List UInt8)
      (fault : Option Fault)
  | finalizeStage (token : String)
  | abortStage (token : String)

/-- A call on a handle that is not open changes nothing. -/
def step (env : StagingEnv) (staging : Staging) : Action → Option Staging
  | .beginStage token scopeId dataName =>
      match staging.uploads.find token with
      | some _ => none
      | none => some (staging.update token staging.disk
          (beginUpload env scopeId dataName none))
  | .stageFile token scopeId dataName bytes =>
      match staging.uploads.find token with
      | some _ => none
      | none => some (staging.update token staging.disk
          (beginUpload env scopeId dataName (some bytes)))
  | .advance token fault =>
      match staging.uploads.find token with
      | none => none
      | some upload =>
          (advance env staging.disk upload fault upload.phase).map fun next =>
            staging.update token next.1 next.2
  | .appendStageChunk token chunk fault =>
      match staging.uploads.find token with
      | some ⟨resolved, .opened file, appended, broken⟩ =>
          if chunk = [] then some staging
          else
            let next := appendChunk staging.disk
              ⟨resolved, .opened file, appended, broken⟩ file chunk fault
            some (staging.update token next.1 next.2)
      | _ => some staging
  | .finalizeStage token =>
      match staging.uploads.find token with
      | some ⟨resolved, .opened file, appended, broken⟩ =>
          some { staging.update token staging.disk
              ⟨resolved, .flush file, appended, broken⟩ with
            consumed := token :: staging.consumed }
      | _ => some staging
  | .abortStage token =>
      match staging.uploads.find token with
      | some ⟨resolved, .opened _, appended, broken⟩ =>
          some { staging.update token staging.disk
              ⟨resolved, .removeFile, appended, broken⟩ with
            consumed := token :: staging.consumed }
      | _ => some staging

/-! ## What one operation does to the disk -/

namespace Disk

theorem overwrite_at_end (old bytes : List UInt8) :
    overwrite old old.length bytes = old ++ bytes := by
  unfold overwrite
  rw [Nat.sub_self, List.replicate_zero, List.append_nil, List.take_length,
    List.drop_eq_nil_of_le (Nat.le_add_right _ _), List.append_nil]

/-- Names of different files, each drawn before. -/
structure Valid (disk : Disk) : Prop where
  drawn : ∀ path inode, disk.names.find path = some inode → inode < disk.used
  apart : ∀ path other inode, disk.names.find path = some inode →
    disk.names.find other = some inode → path = other

/-- Only the file at the path has changed. -/
structure Confined (before after : Disk) (path : PathBuf) : Prop where
  valid : Valid after
  names : ∀ other, other ≠ path →
    after.names.find other = before.names.find other
  data : ∀ other inode, other ≠ path →
    before.names.find other = some inode →
      after.data.find inode = before.data.find inode

variable {disk middle after : Disk} {path : PathBuf}

theorem Confined.refl (valid : Valid disk) : Confined disk disk path :=
  ⟨valid, fun _ _ => rfl, fun _ _ _ _ => rfl⟩

theorem Confined.trans (first : Confined disk middle path)
    (second : Confined middle after path) : Confined disk after path := by
  refine ⟨second.valid, ?_, ?_⟩
  · intro other different
    rw [second.names other different, first.names other different]
  · intro other inode different named
    rw [second.data other inode different, first.data other inode different
      named]
    rw [first.names other different]
    exact named

theorem confined_create (valid : Valid disk)
    (absent : disk.names.find path = none) :
    Confined disk (disk.create path).2 path ∧
      (disk.create path).2.names.find path = some (disk.create path).1 ∧
      (disk.create path).2.data.find (disk.create path).1 = some [] := by
  have isCreated : disk.create path = (disk.used, {
      names := disk.names.put path disk.used
      data := disk.data.put disk.used []
      used := disk.used + 1 }) := by
    unfold create
    rw [absent]
  rw [isCreated]
  refine ⟨⟨⟨?_, ?_⟩, ?_, ?_⟩, Table.find_put_self, Table.find_put_self⟩
  · intro other inode named
    change (disk.names.put path disk.used).find other = some inode at named
    rw [Table.find_put] at named
    show inode < disk.used + 1
    split at named
    · cases named
      exact Nat.lt_succ_self _
    · exact Nat.lt_succ_of_lt (valid.drawn other inode named)
  · intro first second inode isFirst isSecond
    change (disk.names.put path disk.used).find first = some inode at isFirst
    change (disk.names.put path disk.used).find second = some inode at isSecond
    rw [Table.find_put] at isFirst isSecond
    split at isFirst <;> split at isSecond
    · rename_i firstSame secondSame
      rw [firstSame, secondSame]
    · cases isFirst
      exact absurd (valid.drawn second _ isSecond) (lt_irrefl _)
    · cases isSecond
      exact absurd (valid.drawn first _ isFirst) (lt_irrefl _)
    · exact valid.apart first second inode isFirst isSecond
  · intro other different
    exact Table.find_put_of_ne different
  · intro other inode different named
    apply Table.find_put_of_ne
    rintro rfl
    exact absurd (valid.drawn other _ named) (lt_irrefl _)

theorem confined_writeAt {inode offset : Nat} {bytes : List UInt8}
    (valid : Valid disk) (named : disk.names.find path = some inode) :
    Confined disk (disk.writeAt inode offset bytes) path := by
  refine ⟨⟨valid.drawn, valid.apart⟩, fun _ _ => rfl, ?_⟩
  intro other otherInode different isOther
  apply Table.find_put_of_ne
  rintro rfl
  exact different (valid.apart other path _ isOther named)

theorem confined_remove (valid : Valid disk) :
    Confined disk (disk.remove path) path := by
  have kept : ∀ other inode, (disk.remove path).names.find other = some inode →
      disk.names.find other = some inode := by
    intro other inode named
    change (disk.names.remove path).find other = some inode at named
    rw [Table.find_remove] at named
    split at named
    · cases named
    · exact named
  refine ⟨⟨?_, ?_⟩, ?_, fun _ _ _ _ => rfl⟩
  · intro other inode named
    exact valid.drawn other inode (kept other inode named)
  · intro first second inode isFirst isSecond
    exact valid.apart first second inode (kept first inode isFirst)
      (kept second inode isSecond)
  · intro other different
    show (disk.names.remove path).find other = disk.names.find other
    rw [Table.find_remove, if_neg different]

theorem remove_absent : (disk.remove path).names.find path = none :=
  Table.find_remove_self

theorem Confined.read (confined : Confined disk after path) {other : PathBuf}
    (different : other ≠ path) : after.read other = disk.read other := by
  unfold Disk.read
  rw [confined.names other different]
  cases named : disk.names.find other with
  | none => rfl
  | some inode => exact confined.data other inode different named

end Disk

/-! ## Paths -/

def StrictlyBelow (root path : PathBuf) : Prop :=
  path.start = root.start ∧ ∃ rest, rest ≠ [] ∧
    (∀ component ∈ rest, component.isParent = false) ∧
    path.components = root.components ++ rest

def stagingRoot (env : StagingEnv) : PlainPath :=
  env.cacheRoot.join stagingSubdir isSegment_stagingSubdir

theorem components_fromText {text : String} (isSegment : IsSegment text)
    (nonempty : text ≠ "") (notCurrent : text ≠ ".") :
    ∃ component, (PathBuf.fromText text).components = [component] ∧
      component.isParent = false := by
  have noSeparator : 0x2F ∉ Text.asBytes text := by
    rw [Text.separator_mem_asBytes_iff]
    exact isSegment.noSeparator
  have onePiece : (Text.asBytes text).splitOn 0x2F = [Text.asBytes text] := by
    apply List.splitOnP_eq_singleton
    intro byte member
    rw [beq_eq_false_iff_ne]
    exact fun isSeparator => noSeparator (isSeparator ▸ member)
  have isComponent : Text.asBytes text ≠ [] ∧ 0x2F ∉ Text.asBytes text ∧
      Text.asBytes text ≠ [0x2E] := by
    refine ⟨?_, noSeparator, ?_⟩
    · intro isEmpty
      exact nonempty (Text.asBytes_injective (isEmpty.trans (by decide)))
    · intro isDot
      exact notCurrent (Text.asBytes_injective (isDot.trans (by decide)))
  have components : (PathBuf.fromText text).components =
      [⟨Text.asBytes text, isComponent.1, isComponent.2.1,
        isComponent.2.2⟩] := by
    unfold PathBuf.fromText PathBuf.ofOsStr
    rw [onePiece]
    simp only [List.filterMap_cons, List.filterMap_nil, Component.ofBytes,
      dif_pos isComponent]
  refine ⟨_, components, ?_⟩
  apply (fromText_segment isSegment).2
  rw [components]
  exact List.mem_singleton_self _

theorem path_join (root : PlainPath) {text : String}
    (isSegment : IsSegment text) :
    (root.join text isSegment).path.start = root.path.start ∧
      (root.join text isSegment).path.components =
        root.path.components ++ (PathBuf.fromText text).components := by
  have isRoot := root.absolute
  unfold PathBuf.isAbsolute at isRoot
  have isJoin : (root.join text isSegment).path =
      { root.path with components := root.path.components ++
        (PathBuf.fromText text).components } := by
    show root.path.join (PathBuf.fromText text) = _
    have notBare : (root.path.start == PathStart.bare) = false := by
      rw [beq_iff_eq.mp isRoot]
      rfl
    unfold PathBuf.join
    rw [(fromText_segment isSegment).1, notBare]
    rfl
  rw [isJoin]
  exact ⟨rfl, rfl⟩

theorem orName_ne {fallback bad : String} {chars : List Char}
    (isFallback : fallback ≠ bad) (isBad : bad.toList ≠ chars ∨ chars = []) :
    orName fallback chars ≠ bad := by
  unfold orName
  split
  · exact isFallback
  · rename_i nonempty
    intro same
    rcases isBad with differ | isEmpty
    · apply differ
      rw [← same, String.toList_ofList]
    · exact nonempty (List.isEmpty_iff.mpr isEmpty)

theorem sanitizeBasename_isComponent (value : String) :
    sanitizeBasename value ≠ "" ∧ sanitizeBasename value ≠ "." := by
  constructor
  · apply orName_ne (by decide)
    exact (em _).symm.imp_right fun isEmpty => isEmpty.symm
  · apply orName_ne (by decide)
    exact Or.inl (trimDots_ne_dot_cons _ []).symm

theorem sanitizeScope_isComponent (scope : String) :
    sanitizeScope scope ≠ "" ∧ sanitizeScope scope ≠ "." := by
  constructor
  · apply orName_ne (by decide)
    exact (em _).symm.imp_right fun isEmpty => isEmpty.symm
  · apply orName_ne (by decide)
    left
    intro isDot
    have member : '.' ∈ Text.trimChars (scope.toList.map
        (replaceUnsafe ['/', '\\', ':', '\x00', '.'])) := by
      rw [← isDot]
      decide
    rcases List.mem_map.mp (mem_of_mem_trimChars member) with
      ⟨c, _, isReplaced⟩
    exact replaceUnsafe_ne (by decide) (by decide) c isReplaced

/-- Whatever the scope and the name, the file is two components below the
staging root. -/
theorem managedPath_below (env : StagingEnv) (scopeId dataName : String) :
    StrictlyBelow (stagingRoot env).path
      (managedPath env scopeId dataName).path.path := by
  have scope := isSegment_sanitizeScope scopeId
  have name := isSegment_sanitizeBasename dataName
  rcases components_fromText scope (sanitizeScope_isComponent scopeId).1
    (sanitizeScope_isComponent scopeId).2 with
    ⟨scopePart, isScope, scopeDown⟩
  rcases components_fromText name (sanitizeBasename_isComponent dataName).1
    (sanitizeBasename_isComponent dataName).2 with
    ⟨namePart, isName, nameDown⟩
  have isPath : (managedPath env scopeId dataName).path =
      ((stagingRoot env).join (sanitizeScope scopeId) scope).join
        (sanitizeBasename dataName) name := rfl
  rcases path_join (stagingRoot env) scope with ⟨outerStart, outer⟩
  rcases path_join ((stagingRoot env).join (sanitizeScope scopeId) scope) name
    with ⟨innerStart, inner⟩
  rw [isPath]
  refine ⟨innerStart.trans outerStart, [scopePart, namePart],
    List.cons_ne_nil _ _, ?_, ?_⟩
  · intro component member
    rcases List.mem_cons.mp member with isFirst | inRest
    · rw [isFirst]
      exact scopeDown
    · rw [List.mem_singleton.mp inRest]
      exact nameDown
  · rw [inner, outer, isScope, isName, List.append_assoc]
    rfl

end OpenClipboard.StagingSessions
