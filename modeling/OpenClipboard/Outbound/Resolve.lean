import OpenClipboard.Capture.Classification

/-!
# Resolving the files of an outbound entry

A file-class send takes its paths from the persisted manifest, and from the
representations only where there is no manifest to use.  The path of a manifest
line is recovered from the text of the top-level line it came from; members of
a directory root add their relative path to it.
-/

namespace OpenClipboard

open Text

structure DirectoryMemberSource where
  location : FileSetMemberLocation
  path : Option PathBuf
  rootIsFile : Bool
  deriving DecidableEq, Repr

inductive OutboundFileSetResolution where
  | notFileClass
  | manifest (paths : List PathBuf) (expectedDigests : List Digest)
  | fallback (paths : List PathBuf)
  | directorySyncable (paths : List PathBuf)
      (members : List DirectoryMemberSource)
  | excluded (ingestFailed sizeCapExceeded unsupportedMember : Nat)
  deriving DecidableEq, Repr

/-- `EntryFileSetRepositoryPort::load`. -/
abbrev FileSetLoad := Except String (Option EntryFileSet)

section Resolve

variable (urlParse : UrlParse)

def textFilePaths (text : String) : List PathBuf :=
  (lines text).filterMap fun line =>
    match parseUriListLine urlParse line with
    | .file path => some path
    | .nonFile => none

def isExtractedFileRep (rep : ObservedClipboardRepresentation) : Bool :=
  rep.mime.any (fun mime =>
      eqIgnoreAsciiCase mime.asStr "text/uri-list" ||
        eqIgnoreAsciiCase mime.asStr "file/uri-list") ||
    eqIgnoreAsciiCase rep.formatId.asStr "files" ||
    eqIgnoreAsciiCase rep.formatId.asStr "public.file-url"

def extractFilePathsFromSnapshot (snapshot : SystemClipboardSnapshot) :
    List PathBuf :=
  PathBuf.sortDedup <| snapshot.representations.flatMap fun rep =>
    if isExtractedFileRep rep then
      match rep.inlineBytes.bind fromUtf8 with
      | some text => textFilePaths urlParse text
      | none => []
    else
      []

def manifestLinePath (originalText : String) : Option PathBuf :=
  match parseUriListLine urlParse originalText with
  | .file path => some path
  | .nonFile =>
      let bare := trim originalText
      if !bare.isEmpty && !startsWith bare "#" then
        some (PathBuf.fromText bare)
      else
        none

/-- What one line of a structured manifest adds: nothing, a member, or a
refusal of the whole manifest. -/
def directoryMemberSource (fileSet : EntryFileSet)
    (line : EntryFileSetLine) : Option (Option DirectoryMemberSource) :=
  match line.memberLocation, line.kind with
  | none, .nonFile => some none
  | none, _ => none
  | some location, kind =>
      let rootIsFile := fileSet.rootIsFile location.rootIndex
      let fileMember :=
        (manifestLinePath urlParse line.originalText).map fun rootPath =>
          some {
            location := location
            path := some <|
              if rootIsFile then
                rootPath
              else
                rootPath.join (PathBuf.fromText location.relativePath)
            rootIsFile := rootIsFile }
      match kind, location.kind with
      | .file _ _ _, .file => fileMember
      | .file _ _ _, .executable => fileMember
      | .nonFile, .emptyDirectory =>
          some (some ⟨location, none, rootIsFile⟩)
      | _, _ => none

def excludedCount (fileSet : EntryFileSet)
    (reason : EntryFileSetExcludeReason) : Nat :=
  fileSet.lines.countP fun line => line.kind == .excluded reason

/-- The resolution of a manifest without excluded lines; `reps` is what the
representations would give. -/
def resolveComplete (fileSet : EntryFileSet) (reps : List PathBuf) :
    OutboundFileSetResolution :=
  if fileSet.hasDirectoryStructure then
    match fileSet.lines.mapM (directoryMemberSource urlParse fileSet) with
    | none => .fallback reps
    | some found =>
        let members := found.filterMap id
        .directorySyncable
          (PathBuf.sortDedup (members.filterMap DirectoryMemberSource.path))
          members
  else
    match fileSet.fileLines.mapM fun line =>
        manifestLinePath urlParse line.originalText with
    | none => .fallback reps
    | some paths =>
        .manifest (PathBuf.sortDedup paths) fileSet.contentDigestContribution

def resolveOutboundFileSet (loaded : FileSetLoad)
    (snapshot : SystemClipboardSnapshot) : OutboundFileSetResolution :=
  if !snapshot.representations.any ObservedClipboardRepresentation.isFile then
    .notFileClass
  else
    match loaded with
    | .error _ => .fallback (extractFilePathsFromSnapshot urlParse snapshot)
    | .ok none => .fallback (extractFilePathsFromSnapshot urlParse snapshot)
    | .ok (some fileSet) =>
        let ingestFailed := excludedCount fileSet .ingestFailed
        let sizeCapExceeded := excludedCount fileSet .sizeCapExceeded
        let unsupportedMember := excludedCount fileSet .unsupportedMember
        if 0 < ingestFailed + sizeCapExceeded + unsupportedMember then
          .excluded ingestFailed sizeCapExceeded unsupportedMember
        else
          resolveComplete urlParse fileSet
            (extractFilePathsFromSnapshot urlParse snapshot)

variable {urlParse} {fileSet : EntryFileSet}

theorem excludedCount_eq_zero
    (complete : fileSet.hasExcluded = false)
    (reason : EntryFileSetExcludeReason) :
    excludedCount fileSet reason = 0 := by
  rw [excludedCount, List.countP_eq_zero]
  intro line member
  have included := List.any_eq_false.mp complete line member
  intro isExcluded
  rw [beq_iff_eq] at isExcluded
  simp [isExcluded, EntryFileSetLineKind.isExcluded] at included

theorem resolveOutboundFileSet_of_complete
    {snapshot : SystemClipboardSnapshot}
    (fileClass : snapshot.representations.any
      ObservedClipboardRepresentation.isFile = true)
    (complete : fileSet.hasExcluded = false) :
    resolveOutboundFileSet urlParse (.ok (some fileSet)) snapshot =
      resolveComplete urlParse fileSet
        (extractFilePathsFromSnapshot urlParse snapshot) := by
  simp [resolveOutboundFileSet, fileClass, excludedCount_eq_zero complete]

theorem resolveOutboundFileSet_of_excluded
    {snapshot : SystemClipboardSnapshot}
    (fileClass : snapshot.representations.any
      ObservedClipboardRepresentation.isFile = true)
    (excluded : fileSet.hasExcluded = true) :
    ∃ ingestFailed sizeCapExceeded unsupportedMember,
      resolveOutboundFileSet urlParse (.ok (some fileSet)) snapshot =
        .excluded ingestFailed sizeCapExceeded unsupportedMember := by
  obtain ⟨line, member, isExcluded⟩ := List.any_eq_true.mp excluded
  have someReason : ∃ reason, 0 < excludedCount fileSet reason := by
    cases kind : line.kind with
    | excluded reason =>
        refine ⟨reason, List.countP_pos_iff.mpr ⟨line, member, ?_⟩⟩
        rw [kind, beq_self_eq_true]
    | file contentHash blobId sizeBytes =>
        rw [kind] at isExcluded
        cases isExcluded
    | nonFile =>
        rw [kind] at isExcluded
        cases isExcluded
  have positive : 0 < excludedCount fileSet .ingestFailed +
      excludedCount fileSet .sizeCapExceeded +
        excludedCount fileSet .unsupportedMember := by
    obtain ⟨reason, counted⟩ := someReason
    cases reason with
    | sizeCapExceeded => omega
    | ingestFailed => omega
    | unsupportedMember => omega
  refine ⟨excludedCount fileSet .ingestFailed,
    excludedCount fileSet .sizeCapExceeded,
    excludedCount fileSet .unsupportedMember, ?_⟩
  simp [resolveOutboundFileSet, fileClass, positive]

theorem resolveOutboundFileSet_of_notFileClass
    {sent : SystemClipboardSnapshot} (loaded : FileSetLoad)
    (notFileClass : ¬ sent.representations.any
      ObservedClipboardRepresentation.isFile = true) :
    resolveOutboundFileSet urlParse loaded sent = .notFileClass := by
  rw [Bool.not_eq_true] at notFileClass
  simp [resolveOutboundFileSet, notFileClass]

theorem directoryMemberSource_rootIsFile
    {fileSet : EntryFileSet} {line : EntryFileSetLine}
    {member : DirectoryMemberSource}
    (found : directoryMemberSource urlParse fileSet line =
      some (some member)) :
    member.rootIsFile = fileSet.rootIsFile member.location.rootIndex := by
  unfold directoryMemberSource at found
  split at found
  · cases found
  · cases found
  · simp only at found
    split at found
    · obtain ⟨rootPath, _, spelled⟩ := Option.map_eq_some_iff.mp found
      cases spelled
      rfl
    · obtain ⟨rootPath, _, spelled⟩ := Option.map_eq_some_iff.mp found
      cases spelled
      rfl
    · cases found
      rfl
    · cases found

theorem resolveOutboundFileSet_rootIsFile
    {fileSet : EntryFileSet} {snapshot : SystemClipboardSnapshot}
    {paths : List PathBuf} {members : List DirectoryMemberSource}
    (resolved : resolveOutboundFileSet urlParse (.ok (some fileSet)) snapshot =
      .directorySyncable paths members) :
    ∀ member ∈ members,
      member.rootIsFile = fileSet.rootIsFile member.location.rootIndex := by
  intro member inMembers
  unfold resolveOutboundFileSet at resolved
  split at resolved
  · cases resolved
  · simp only at resolved
    split at resolved
    · cases resolved
    · unfold resolveComplete at resolved
      split at resolved
      · split at resolved
        · cases resolved
        · rename_i found mapped
          cases resolved
          obtain ⟨some', inFound, isMember⟩ := List.mem_filterMap.mp inMembers
          rw [id_eq] at isMember
          subst isMember
          obtain ⟨line, _, sourced⟩ :=
            (PartialMap.mem_of_mapM mapped).mp inFound
          exact directoryMemberSource_rootIsFile sourced
      · split at resolved
        · cases resolved
        · cases resolved

end Resolve

end OpenClipboard
