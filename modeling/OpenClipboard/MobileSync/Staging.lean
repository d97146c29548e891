import OpenClipboard.Core.Url
import OpenClipboard.Library.Table

/-!
# Staging an upload

The body of an upload is written below the cache directory, or into the save
directory of the user.  The device keeps the URL of the file until the document
that names the upload arrives.
-/

namespace OpenClipboard.MobileSync

open Text

def stagingSubdir : String := "mobile_inbound"
def fallbackFilename : String := "staged.bin"

/-! ## Names -/

/-- `char::is_control`: the category `Cc`. -/
def isControl (c : Char) : Bool :=
  c.toNat < 0x20 || (0x7F ≤ c.toNat && c.toNat ≤ 0x9F)

def replaceUnsafe (banned : List Char) (c : Char) : Char :=
  if c ∈ banned ∨ isControl c = true then '_' else c

/-- `trim_matches('.')`. -/
def trimDots (chars : List Char) : List Char :=
  (chars.dropWhile (· = '.')).rdropWhile (· = '.')

/-- The characters that are left, or a fixed name. -/
def orName (fallback : String) (chars : List Char) : String :=
  if chars.isEmpty then fallback else String.ofList chars

def sanitizeBasename (value : String) : String :=
  let basename :=
    ((PathBuf.fromText value).fileName.bind Component.toStr).getD value
  orName fallbackFilename <| trimDots <| trimChars <|
    basename.toList.map (replaceUnsafe ['/', '\\', ':', '\x00'])

def sanitizeScope (scope : String) : String :=
  orName "unscoped" <| trimChars <|
    scope.toList.map (replaceUnsafe ['/', '\\', ':', '\x00', '.'])

/-- A text that is one component of a path, and not `..`. -/
structure IsSegment (text : String) : Prop where
  noSeparator : '/' ∉ text.toList
  notParent : text ≠ ".."

theorem replaceUnsafe_ne {banned : List Char} {bad : Char}
    (listed : bad ∈ banned) (notUnderscore : bad ≠ '_') (c : Char) :
    replaceUnsafe banned c ≠ bad := by
  unfold replaceUnsafe
  split
  · exact notUnderscore.symm
  · rename_i kept
    intro isBad
    rw [isBad] at kept
    exact kept (Or.inl listed)

theorem mem_of_mem_trimChars {chars : List Char} {c : Char}
    (member : c ∈ trimChars chars) : c ∈ chars := by
  unfold trimChars at member
  have inDrop := (List.rdropWhile_prefix _ _).subset member
  exact (List.dropWhile_suffix _).subset inDrop

theorem mem_of_mem_trimDots {chars : List Char} {c : Char}
    (member : c ∈ trimDots chars) : c ∈ chars := by
  unfold trimDots at member
  have inDrop := (List.rdropWhile_prefix _ _).subset member
  exact (List.dropWhile_suffix _).subset inDrop

theorem trimDots_ne_dot_cons (chars rest : List Char) :
    trimDots chars ≠ '.' :: rest := by
  intro isDotted
  unfold trimDots at isDotted
  have isPrefix := List.rdropWhile_prefix (fun c : Char => decide (c = '.'))
    (chars.dropWhile fun c : Char => decide (c = '.'))
  rw [isDotted] at isPrefix
  obtain ⟨dropped, isDropped⟩ := isPrefix
  have notDot := List.head_dropWhile_not (fun c : Char => decide (c = '.'))
    (l := chars) (by rw [← isDropped]; simp)
  simp [← isDropped] at notDot

theorem isSegment_orName {fallback : String} {chars : List Char}
    (isFallback : IsSegment fallback) (noSeparator : '/' ∉ chars)
    (notParent : chars ≠ ['.', '.']) :
    IsSegment (orName fallback chars) := by
  unfold orName
  split
  · exact isFallback
  · constructor
    · rw [String.toList_ofList]
      exact noSeparator
    · intro isParent
      have isChars := congrArg String.toList isParent
      rw [String.toList_ofList] at isChars
      exact notParent isChars

theorem isSegment_sanitizeBasename (value : String) :
    IsSegment (sanitizeBasename value) := by
  apply isSegment_orName ⟨by decide, by decide⟩ _ (trimDots_ne_dot_cons _ _)
  intro isSeparator
  obtain ⟨c, _, isReplaced⟩ := List.mem_map.mp
    (mem_of_mem_trimChars (mem_of_mem_trimDots isSeparator))
  exact replaceUnsafe_ne (by decide) (by decide) c isReplaced

theorem isSegment_sanitizeScope (scope : String) :
    IsSegment (sanitizeScope scope) := by
  have replaced : ∀ bad ∈ ['/', '.'], bad ∉ trimChars (scope.toList.map
      (replaceUnsafe ['/', '\\', ':', '\x00', '.'])) := by
    intro bad isBad member
    obtain ⟨c, _, isReplaced⟩ := List.mem_map.mp (mem_of_mem_trimChars member)
    simp only [List.mem_cons, List.not_mem_nil, or_false] at isBad
    rcases isBad with rfl | rfl
    · exact replaceUnsafe_ne (by decide) (by decide) c isReplaced
    · exact replaceUnsafe_ne (by decide) (by decide) c isReplaced
  apply isSegment_orName ⟨by decide, by decide⟩
  · exact replaced '/' (by decide)
  · intro isParent
    have notDot := replaced '.' (by decide)
    rw [isParent] at notDot
    exact notDot (by decide)

theorem isSegment_stagingSubdir : IsSegment stagingSubdir :=
  ⟨by decide, by decide⟩

/-! ## Paths -/

/-- An absolute path without `..`. -/
structure PlainPath where
  path : PathBuf
  absolute : path.isAbsolute = true
  noParent : ∀ component ∈ path.components, component.isParent = false

theorem fromText_segment {text : String} (isSegment : IsSegment text) :
    (PathBuf.fromText text).isAbsolute = false ∧
      ∀ component ∈ (PathBuf.fromText text).components,
        component.isParent = false := by
  have noSeparator : 0x2F ∉ asBytes text := by
    rw [separator_mem_asBytes_iff]
    exact isSegment.noSeparator
  have onePiece : (asBytes text).splitOn 0x2F = [asBytes text] := by
    apply List.splitOnP_eq_singleton
    intro byte member
    rw [beq_eq_false_iff_ne]
    exact fun isSeparator => noSeparator (isSeparator ▸ member)
  unfold PathBuf.fromText PathBuf.ofOsStr
  rw [onePiece]
  constructor
  · unfold PathBuf.isAbsolute PathBuf.startOf
    split <;> simp_all
  · intro component member
    simp only [List.filterMap_cons, List.filterMap_nil, Component.ofBytes]
      at member
    split at member
    · cases member
    · rename_i isComponent
      rw [List.mem_singleton] at member
      subst member
      split at isComponent
      · cases isComponent
        unfold Component.isParent
        rw [beq_eq_false_iff_ne]
        intro isParent
        apply isSegment.notParent
        exact asBytes_injective (isParent.trans (by decide))
      · cases isComponent

namespace PlainPath

/-- `Path::join` with a name. -/
def join (root : PlainPath) (text : String) (isSegment : IsSegment text) :
    PlainPath where
  path := root.path.join (PathBuf.fromText text)
  absolute := by
    have isRoot := root.absolute
    have notAbsolute := (fromText_segment isSegment).1
    unfold PathBuf.isAbsolute at isRoot
    unfold PathBuf.join
    rw [notAbsolute, beq_iff_eq.mp isRoot]
    rfl
  noParent := by
    intro component member
    have isRoot := root.absolute
    have notAbsolute := (fromText_segment isSegment).1
    unfold PathBuf.isAbsolute at isRoot
    unfold PathBuf.join at member
    rw [notAbsolute, beq_iff_eq.mp isRoot] at member
    rcases List.mem_append.mp member with inRoot | inText
    · exact root.noParent component inRoot
    · exact (fromText_segment isSegment).2 component inText

end PlainPath

/-- The `url` crate on local paths: `from_file_path` and `parse`, which reads
back what it wrote. -/
structure FileUrls where
  fromFilePath : PathBuf → Option String
  parse : UrlParse
  isFileUrl : ∀ path uri, fromFilePath path = some uri →
    startsWith uri "file:///" = true
  noWhitespace : ∀ path uri, fromFilePath path = some uri →
    ∀ c ∈ uri.toList, isWhitespace c = false
  parse_fromFilePath : ∀ (path : PlainPath) uri,
    fromFilePath path.path = some uri → parse uri = some ⟨"file", path.path⟩

/-! ## Files -/

structure StagedFile where
  uri : String
  sanitizedName : String
  deriving DecidableEq, Repr

inductive MobileFileStagingError where
  | io (message : String)
  | invalidDataName (message : String)
  | notFound
  deriving DecidableEq, Repr

/-- A file that the body of one upload goes to. -/
structure ResolvedWritePath where
  path : PlainPath
  name : String

/-- The cache directory and the libraries. -/
structure StagingEnv where
  cacheRoot : PlainPath
  urls : FileUrls

/-- One `PUT /file/{dataName}`: the scope made for it, the path that the save
directory of the user reserves for it, its body, and what fails. -/
structure FileUpload where
  dataName : String
  scope : String
  reserved : Option PlainPath
  mime : String
  bytes : List UInt8
  transferId : String
  failure : Option String

section Stage

variable (env : StagingEnv)

def resolveWritePath (upload : FileUpload) : ResolvedWritePath :=
  match upload.reserved with
  | some path => {
      path := path
      name := (path.path.fileName.bind Component.toStr).getD
        (sanitizeBasename upload.dataName) }
  | none =>
      let entryDir := (env.cacheRoot.join stagingSubdir
        isSegment_stagingSubdir).join (sanitizeScope upload.scope)
          (isSegment_sanitizeScope upload.scope)
      { path := entryDir.join (sanitizeBasename upload.dataName)
          (isSegment_sanitizeBasename upload.dataName)
        name := sanitizeBasename upload.dataName }

/-- `begin_stage`, the chunks, and `finalize_stage`: the files after it, and
the file staged.  An upload that fails removes what it wrote. -/
def stageFile (upload : FileUpload) (files : Table PathBuf (List UInt8)) :
    Except MobileFileStagingError (StagedFile × Table PathBuf (List UInt8)) :=
  match upload.failure,
      env.urls.fromFilePath (resolveWritePath env upload).path.path with
  | some message, _ => .error (.io message)
  | none, none => .error (.io ("failed to convert path to file URI: " ++
      (resolveWritePath env upload).path.path.display))
  | none, some uri =>
      .ok (⟨uri, (resolveWritePath env upload).name⟩,
        files.put (resolveWritePath env upload).path.path upload.bytes)

def readByUri (uri : String) (files : Table PathBuf (List UInt8)) :
    Except MobileFileStagingError (List UInt8) :=
  match env.urls.parse uri with
  | none => .error (.io "URI parse failed")
  | some url =>
      match url.toFilePath with
      | none =>
          .error (.io "URI is not a file:// URL or has no usable path")
      | some path =>
          match files.find path with
          | none => .error .notFound
          | some bytes => .ok bytes

theorem readByUri_stageFile {upload : FileUpload}
    {files after : Table PathBuf (List UInt8)} {staged : StagedFile}
    (isStaged : stageFile env upload files = .ok (staged, after)) :
    readByUri env staged.uri after = .ok upload.bytes ∧
      startsWith staged.uri "file:///" = true := by
  unfold stageFile at isStaged
  split at isStaged
  · cases isStaged
  · cases isStaged
  · rename_i uri _ isUri
    cases isStaged
    constructor
    · unfold readByUri
      rw [env.urls.parse_fromFilePath _ _ isUri]
      simp only [Table.find_put_self]
    · exact env.urls.isFileUrl _ _ isUri

end Stage

/-! ## The buffer -/

def maxBufferedFiles : Nat := 16

structure BufferedFile where
  mime : String
  staged : StagedFile
  transferId : String
  deriving DecidableEq, Repr

abbrev IncomingMobileBuffer := Table String BufferedFile

/-- Store under a data name; a full buffer first drops the entry that its
hash map lists first. -/
def IncomingMobileBuffer.store (firstKey : IncomingMobileBuffer → Option String)
    (dataName : String) (file : BufferedFile) (buffer : IncomingMobileBuffer) :
    IncomingMobileBuffer :=
  if maxBufferedFiles ≤ buffer.keys.length ∧ dataName ∉ buffer.keys then
    match firstKey buffer with
    | some victim => (Table.remove buffer victim).put dataName file
    | none => buffer.put dataName file
  else
    buffer.put dataName file

@[simp]
theorem IncomingMobileBuffer.find_store_self
    {firstKey : IncomingMobileBuffer → Option String} {dataName : String}
    {file : BufferedFile} {buffer : IncomingMobileBuffer} :
    Table.find (buffer.store firstKey dataName file) dataName = some file := by
  unfold store
  split
  · split
    · exact Table.find_put_self
    · exact Table.find_put_self
  · exact Table.find_put_self

end OpenClipboard.MobileSync
