import OpenClipboard.Capture.Classification
import OpenClipboard.Capture.PlatformReader

/-!
# The identity of a capture

A capture of files builds their manifest first, and its identity hashes what
the manifest found of their contents in place of their paths.
-/

namespace OpenClipboard

open Text

section Stamp

variable (unicode : UnicodeNormalization) (fs : FileSystem) (blake3 : Blake3)
variable (urlParse : UrlParse) (caps : FileSetCaps)

/-- Whether the capture builds a manifest. -/
def isFileClass (snapshot : SystemClipboardSnapshot) : Bool :=
  snapshot.representations.any fun rep => rep.localPath.isSome || rep.isFile

/-- Set the component of a directory set, else the digests of a flat one. -/
def stampFileSet (built : EntryFileSet) (snapshot : SystemClipboardSnapshot) :
    SystemClipboardSnapshot :=
  match built.fileSetV1Component blake3 with
  | some component => { snapshot with fileSetV1Component := some component }
  | none =>
      if built.contentDigestContribution.isEmpty then
        snapshot
      else
        { snapshot with
          fileContentDigests := built.contentDigestContribution }

/-- The snapshot with what `execute_with_origin` finds of its files. -/
def stampCapture (snapshot : SystemClipboardSnapshot) :
    SystemClipboardSnapshot :=
  if snapshot.fileContentDigests.isEmpty &&
      snapshot.fileSetV1Component.isNone && isFileClass snapshot then
    match buildEntryFileSet unicode fs blake3 urlParse caps snapshot with
    | none => snapshot
    | some built => stampFileSet blake3 built snapshot
  else
    snapshot

def captureIdentity (snapshot : SystemClipboardSnapshot) : Option Digest :=
  (stampCapture unicode fs blake3 urlParse caps snapshot).snapshotHash blake3
    fs.readFile

end Stamp

/-! ## One file -/

section OneFile

variable {unicode : UnicodeNormalization} {fs : FileSystem} {blake3 : Blake3}
variable {urlParse : UrlParse} {caps : FileSetCaps}
variable {root : TopLevelFileMember} {bytes : List UInt8}

def FileSetCaps.allows (caps : FileSetCaps) (size : Nat) : Prop :=
  (caps.maxMemberCount = 0 ∨ 1 ≤ caps.maxMemberCount) ∧
    (caps.maxTotalBytes = 0 ∨ size ≤ caps.maxTotalBytes)

theorem lookup_of_readFile {path : PathBuf}
    (reads : fs.readFile path = some bytes) :
    ∃ executable, fs.lookup path =
      some (.leaf (.file executable true bytes)) := by
  unfold FileSystem.readFile at reads
  split at reads
  · rename_i executable content isLeaf
    cases reads
    exact ⟨executable, isLeaf⟩
  · cases reads

variable (unicode blake3) in
theorem buildFileMemberLines_oneFile
    (reads : fs.readFile root.path = some bytes)
    (isFirst : root.lineIndex = 0)
    (size : root.knownSize.getD bytes.length = bytes.length)
    (admitted : caps.allows bytes.length) :
    ∃ line : EntryFileSetLine,
      buildFileMemberLines unicode fs blake3 [root] [] 1 caps = [line] ∧
        line.kind = .file (ContentHash.contentHash blake3 bytes) none none ∧
        line.indicatesDirectoryRoot 1 = false := by
  obtain ⟨executable, isLeaf⟩ := lookup_of_readFile reads
  have hashed : fs.hashPath blake3 root.path =
      some (ContentHash.contentHash blake3 bytes) := by
    unfold FileSystem.hashPath
    rw [reads, Option.map_some]
  have notExceeded : (TraversalState.admits { nextLineIndex := 1 }
      bytes.length caps).2 = false := by
    obtain ⟨members, total⟩ := admitted
    change (TraversalBudget.exceeds ⟨min (0 + 1) u64Max,
      min (0 + bytes.length) u64Max⟩ caps) = false
    unfold TraversalBudget.exceeds
    rw [Bool.or_eq_false_iff, Bool.and_eq_false_iff, Bool.and_eq_false_iff]
    simp only [decide_eq_false_iff_not]
    omega
  have traversed : traverseRoots unicode fs caps [root]
      { nextLineIndex := 1 } =
        ([pendingFlatFile unicode root executable], none) := by
    unfold traverseRoots
    simp only [isLeaf, size, notExceeded, traverseRoots]
    rfl
  refine ⟨classifyPending fs blake3 (pendingFlatFile unicode root executable),
    ?_, ?_, ?_⟩
  · unfold buildFileMemberLines
    have notOver : ¬ (0 < caps.maxMemberCount ∧
        caps.maxMemberCount < [root].length) := by
      rw [List.length_singleton]
      omega
    rw [if_neg notOver, traversed]
    rfl
  · simp [classifyPending, pendingFlatFile, classifyFilePath, hashed]
  · rw [← Bool.not_eq_true, flatFile_indicates_iff, isFirst]
    decide

/-- The selection of one file: the line of the list, or the representation
that holds it. -/
structure SelectsOne (unicode : UnicodeNormalization) (urlParse : UrlParse)
    (path : PathBuf) (size : Nat) (snapshot : SystemClipboardSnapshot) :
    Prop where
  selected : ∃ root, selectTopLevel unicode urlParse snapshot =
      some ⟨[root], [], 1⟩ ∧
    root.path = path ∧ root.lineIndex = 0 ∧ root.knownSize.getD size = size

theorem stampCapture_oneFile {snapshot : SystemClipboardSnapshot}
    {path : PathBuf}
    (selects : SelectsOne unicode urlParse path bytes.length snapshot)
    (reads : fs.readFile path = some bytes)
    (admitted : caps.allows bytes.length)
    (unstamped : snapshot.fileContentDigests = [] ∧
      snapshot.fileSetV1Component = none)
    (fileClass : isFileClass snapshot = true) :
    stampCapture unicode fs blake3 urlParse caps snapshot =
      { snapshot with
        fileContentDigests := [ContentHash.contentHash blake3 bytes] } := by
  obtain ⟨root, isSelected, isPath, isFirst, size⟩ := selects.selected
  rw [← isPath] at reads
  obtain ⟨line, isLine, isFile, notDirectory⟩ :=
    buildFileMemberLines_oneFile unicode blake3 reads isFirst size admitted
  have built : buildEntryFileSet unicode fs blake3 urlParse caps snapshot =
      some ⟨[line]⟩ := by
    unfold buildEntryFileSet
    rw [isSelected, Option.map_some]
    exact congrArg (fun lines => some (EntryFileSet.mk lines)) isLine
  have flat : (EntryFileSet.mk [line]).hasDirectoryStructure = false := by
    simp [EntryFileSet.hasDirectoryStructure, EntryFileSet.rowCount,
      notDirectory]
  have complete : (EntryFileSet.mk [line]).hasExcluded = false := by
    simp [EntryFileSet.hasExcluded, isFile, EntryFileSetLineKind.isExcluded]
  have noComponent :
      (EntryFileSet.mk [line]).fileSetV1Component blake3 = none := by
    simp [EntryFileSet.fileSetV1Component, flat]
  have digests : (EntryFileSet.mk [line]).contentDigestContribution =
      [ContentHash.contentHash blake3 bytes] := by
    simp [EntryFileSet.contentDigestContribution, flat, complete, isFile,
      EntryFileSetLineKind.contentHash?, sortDigests]
  unfold stampCapture
  rw [unstamped.1, unstamped.2, fileClass, built]
  simp [stampFileSet, noComponent, digests, unstamped.2]

end OneFile

/-! ## One copied file -/

section CopiedFile

variable {unicode : UnicodeNormalization} {fs : FileSystem}
variable {urlParse : UrlParse} {fromFilePath : PathBuf → Option String}
variable {path : PathBuf} {bytes : List UInt8} {uri : String}

theorem uriListText_copied (tsMs : Int) (isUri : fromFilePath path = some uri) :
    uriListText ⟨tsMs, [filesRepresentation fromFilePath [path]], [], none⟩ =
      some uri := by
  have isText : "\n".intercalate ([path].filterMap fromFilePath) = uri := by
    simp [isUri]
  unfold uriListText filesRepresentation
  rw [isText]
  simp [ObservedClipboardRepresentation.new, isFileMimeOrFormat,
    ObservedClipboardRepresentation.inlineBytes, eqIgnoreAsciiCase]

theorem imageFromFile_one {rep : ObservedClipboardRepresentation} {size : Nat}
    {sizeLookup : PathBuf → Option Nat} (isSize : sizeLookup path = some size)
    (isImage : imageFromFile sizeLookup [path] = some rep) :
    (∃ mime, rep = .newLocalFile "image-from-file" "image-from-file"
      (some mime) path (UInt64.ofNat size)) ∧ size ≤ maxImageFileBytes := by
  unfold imageFromFile at isImage
  rw [List.findSome?_cons] at isImage
  cases isMime : imageFileMimeFromPath path with
  | none => simp [isMime] at isImage
  | some mime =>
      simp only [isMime, isSize, List.findSome?_nil] at isImage
      split at isImage
      · rename_i found
        split at found
        · cases found
        · rename_i inRange
          cases found
          cases isImage
          exact ⟨⟨mime, rfl⟩, by omega⟩
      · cases isImage

theorem selectsOne_copied (tsMs : Int)
    (reads : fs.readFile path = some bytes) (nonempty : bytes ≠ [])
    (isUri : fromFilePath path = some uri)
    (parses : urlParse uri = some ⟨"file", some path⟩)
    (isFileUrl : startsWith uri "file:///" = true)
    (noWhitespace : ∀ c ∈ uri.toList, isWhitespace c = false) :
    SelectsOne unicode urlParse path bytes.length {
      tsMs := tsMs
      representations :=
        readFileRepresentations fs.fileSize fromFilePath [path] } := by
  obtain ⟨executable, isLeaf⟩ := lookup_of_readFile reads
  have isSize : fs.fileSize path = some bytes.length := by
    simp [FileSystem.fileSize, isLeaf]
  have syncable :
      filterSyncableClipboardFiles fs.fileSize [path] = [path] := by
    simp [filterSyncableClipboardFiles, isSize, nonempty]
  unfold readFileRepresentations
  rw [syncable]
  cases isImage : imageFromFile fs.fileSize [path] with
  | none =>
      have notEmpty : uri ≠ "" := by
        intro isEmpty
        rw [isEmpty] at isFileUrl
        exact absurd isFileUrl (by decide)
      have notComment : startsWith uri "#" = false := by
        unfold startsWith at isFileUrl ⊢
        obtain ⟨rest, isChars⟩ := List.isPrefixOf_iff_prefix.mp isFileUrl
        rw [← isChars]
        rfl
      refine ⟨⟨⟨0, 0, uri, normalizedBasename unicode path, path, none⟩,
        ?_, rfl, rfl, rfl⟩⟩
      have text := uriListText_copied tsMs isUri
      have line : parseUriListLine urlParse uri = .file path := by
        simp [parseUriListLine, trim_of_noWhitespace noWhitespace, notEmpty,
          notComment, parses]
      have noLocal : localFileMembers unicode ⟨tsMs,
          [filesRepresentation fromFilePath [path]], [], none⟩ = [] := by
        rfl
      unfold selectTopLevel
      simp only [List.isEmpty_cons, Bool.false_eq_true, if_false,
        isImage, Option.toList_none]
      rw [noLocal, text, Option.map_some,
        lines_of_noWhitespace notEmpty noWhitespace]
      simp [uriListMembers, nonFileLines, line]
  | some rep =>
      obtain ⟨isRep, small⟩ := imageFromFile_one isSize isImage
      refine ⟨⟨⟨0, 0, path.display, normalizedBasename unicode path, path,
        some bytes.length⟩, ?_, rfl, rfl, rfl⟩⟩
      have size : (UInt64.ofNat bytes.length).toNat = bytes.length := by
        rw [UInt64.toNat_ofNat']
        exact Nat.mod_eq_of_lt (by unfold maxImageFileBytes at small; omega)
      obtain ⟨mime, isLocal⟩ := isRep
      unfold selectTopLevel localFileMembers localFiles
      simp [isLocal, filesRepresentation, isImage,
        ObservedClipboardRepresentation.new,
        ObservedClipboardRepresentation.newLocalFile, size]

end CopiedFile

end OpenClipboard
