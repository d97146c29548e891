import OpenClipboard.Outbound.PathRecovery

/-!
# When the recovered paths are the hashed paths

The resolution of a complete manifest returns, for every selected file, the
path recovered from its line.  It is the hashed path if the text of the root
gives back the root, the root is classified correctly and every name below it
is normal.
-/

namespace OpenClipboard

open FileTree Text

def OutboundFileSetResolution.paths : OutboundFileSetResolution → List PathBuf
  | .notFileClass => []
  | .manifest paths _ => paths
  | .fallback paths => paths
  | .directorySyncable paths _ => paths
  | .excluded _ _ _ => []

def RootTextsRecovered (urlParse : UrlParse) (fs : FileSystem)
    (roots : List TopLevelFileMember) : Prop :=
  ∀ root ∈ roots, selectedFiles fs root.path ≠ [] →
    manifestLinePath urlParse root.originalText = some root.path

/-- Every name on the way to a file below a selected directory is normal. -/
def NamesNormal (unicode : UnicodeNormalization) (fs : FileSystem)
    (roots : List TopLevelFileMember) : Prop :=
  ∀ root ∈ roots, ∀ names ∈ selectedFiles fs root.path, ∀ name ∈ names,
    IsNormalName unicode name

variable {path : PathBuf} {pending : PendingFileSetLine}
  {root : TopLevelFileMember} {names : List Component}
  {sent : SystemClipboardSnapshot}

@[simp]
theorem mem_sortDedup {paths : List PathBuf} :
    path ∈ PathBuf.sortDedup paths ↔ path ∈ paths := by
  rw [PathBuf.sortDedup, List.mem_dedup,
    (List.perm_insertionSort _ paths).mem_iff]

section Fidelity

variable {unicode : UnicodeNormalization} {fs : FileSystem} {blake3 : Blake3}
variable {urlParse : UrlParse}
variable {selection : Selection} {fileSet : EntryFileSet}

theorem rootLines_originalText {next : Int}
    (member : pending ∈ rootLines unicode fs root next) :
    pending.originalText = root.originalText := by
  unfold rootLines at member
  split at member
  · obtain ⟨position, visit, _, rfl⟩ := mem_numbered.mp member
    rfl
  · rw [List.mem_singleton] at member
    subst member
    rfl

namespace CompleteManifest

theorem rootIsFile_of_file
    (manifest : CompleteManifest unicode fs blake3 selection fileSet)
    (member : root ∈ selection.roots) (isFile : rootVisits fs root = none) :
    fileSet.rootIsFile root.rootIndex = true := by
  obtain ⟨before, after, split⟩ := List.append_of_mem member
  have recognised := manifest.rootIndex_mem_directoryRoots_iff split
  have notListed : root.rootIndex ∉ fileSet.directoryRoots := by
    rw [recognised]
    rintro ⟨listing, shown, _⟩
    simp [rootVisits, shown] at isFile
  simpa [EntryFileSet.rootIsFile] using notListed

theorem classifyPending_isFile
    (manifest : CompleteManifest unicode fs blake3 selection fileSet)
    (member : pending ∈
      pendingLines unicode fs selection.roots selection.topLevelCount)
    (isFile : pending.filePath = some path) :
    ∃ digest, fs.hashPath blake3 path = some digest ∧
      (classifyPending fs blake3 pending).kind = .file digest none none := by
  have included := manifest.hashed pending member
  cases hash : fs.hashPath blake3 path with
  | none =>
      simp [classifyPending, isFile, classifyFilePath, hash,
        EntryFileSetLineKind.isExcluded] at included
  | some digest =>
      exact ⟨digest, rfl, by
        simp [classifyPending, isFile, classifyFilePath, hash]⟩

theorem directoryMemberSource_eq
    (manifest : CompleteManifest unicode fs blake3 selection fileSet)
    {before after : List TopLevelFileMember}
    (split : selection.roots = before ++ root :: after)
    (inLines : pending ∈ rootLines unicode fs root
      (selection.topLevelCount + spans fs before)) :
    directoryMemberSource urlParse fileSet
        (classifyPending fs blake3 pending) =
      if pending.filePath = none then
        some (some ⟨pending.memberLocation, none,
          fileSet.rootIsFile root.rootIndex⟩)
      else
        (manifestLinePath urlParse root.originalText).map fun rootPath =>
          some ⟨pending.memberLocation,
            some (if fileSet.rootIsFile root.rootIndex then rootPath
              else rootPath.join (PathBuf.fromText
                pending.memberLocation.relativePath)),
            fileSet.rootIsFile root.rootIndex⟩ := by
  have inRoots : root ∈ selection.roots := by simp [split]
  have inPending := mem_pendingLines.mpr
    ⟨before, root, after, split, inLines⟩
  have index := rootLines_rootIndex inLines
  have text := rootLines_originalText inLines
  rcases rootLines_kind (manifest.reached root inRoots) inLines with
    ⟨noPath, marker⟩ | ⟨path, isFile, kind⟩
  · simp [directoryMemberSource, classifyPending, noPath, marker, index]
  · obtain ⟨digest, _, hashed⟩ :=
      manifest.classifyPending_isFile inPending isFile
    have located : (classifyPending fs blake3 pending).memberLocation =
        some pending.memberLocation := rfl
    have textual : (classifyPending fs blake3 pending).originalText =
        pending.originalText := rfl
    rcases kind with fileKind | executableKind
    · simp [directoryMemberSource, located, hashed, fileKind, textual, text,
        index, isFile]
    · simp [directoryMemberSource, located, hashed, executableKind, textual,
        text, index, isFile]

theorem directoryMemberSource_other
    (manifest : CompleteManifest unicode fs blake3 selection fileSet)
    {line : EntryFileSetLine} (member : line ∈ selection.otherLines) :
    directoryMemberSource urlParse fileSet line = some none := by
  obtain ⟨unlocated, nonFile⟩ := manifest.wellFormed.other line member
  simp [directoryMemberSource, unlocated, nonFile]

theorem recoveredPath_eq
    (manifest : CompleteManifest unicode fs blake3 selection fileSet)
    (member : root ∈ selection.roots)
    (fileLine : IsFileLine unicode fs root names pending) :
    recoveredPath unicode fileSet root names =
      if fileSet.rootIsFile root.rootIndex then root.path
      else root.path.join (PathBuf.fromText
        pending.memberLocation.relativePath) := by
  unfold recoveredPath
  by_cases marked : fileSet.rootIsFile root.rootIndex = true
  · rw [if_pos marked, if_pos marked]
  · rw [if_neg marked, if_neg marked]
    have directory : (rootVisits fs root).isSome = true := by
      cases visited : rootVisits fs root with
      | none => exact absurd (manifest.rootIsFile_of_file member visited) marked
      | some found => rfl
    rw [fileLine.relativePath directory]

theorem directoryMemberSource_of_fileLine
    (manifest : CompleteManifest unicode fs blake3 selection fileSet)
    (texts : RootTextsRecovered urlParse fs selection.roots)
    {before after : List TopLevelFileMember}
    (split : selection.roots = before ++ root :: after)
    (selected : names ∈ selectedFiles fs root.path)
    (inLines : pending ∈ rootLines unicode fs root
      (selection.topLevelCount + spans fs before))
    (fileLine : IsFileLine unicode fs root names pending) :
    directoryMemberSource urlParse fileSet
        (classifyPending fs blake3 pending) =
      some (some ⟨pending.memberLocation,
        some (recoveredPath unicode fileSet root names),
        fileSet.rootIsFile root.rootIndex⟩) := by
  have inRoots : root ∈ selection.roots := by simp [split]
  have text := texts root inRoots (List.ne_nil_of_mem selected)
  have hasPath : pending.filePath ≠ none := by simp [fileLine.filePath]
  rw [manifest.directoryMemberSource_eq split inLines, if_neg hasPath, text,
    manifest.recoveredPath_eq inRoots fileLine]
  rfl

theorem exists_members
    (manifest : CompleteManifest unicode fs blake3 selection fileSet)
    (texts : RootTextsRecovered urlParse fs selection.roots) :
    ∃ found,
      fileSet.lines.mapM (directoryMemberSource urlParse fileSet) =
        some found := by
  apply PartialMap.exists_mapM_of_forall
  intro line member
  rcases manifest.mem_lines.mp member with
    other | ⟨before, root, after, split, pending, inLines, rfl⟩
  · rw [manifest.directoryMemberSource_other other]
    rfl
  · by_cases isFile : pending.filePath = none
    · rw [manifest.directoryMemberSource_eq split inLines, if_pos isFile]
      rfl
    · obtain ⟨names, selected, fileLine⟩ :=
        exists_names_of_rootLines inLines isFile
      rw [manifest.directoryMemberSource_of_fileLine texts split selected
        inLines fileLine]
      rfl

theorem mem_paths_structured
    (manifest : CompleteManifest unicode fs blake3 selection fileSet)
    (texts : RootTextsRecovered urlParse fs selection.roots)
    (structured : fileSet.hasDirectoryStructure = true) (reps : List PathBuf) :
    path ∈ (resolveComplete urlParse fileSet reps).paths ↔
      ∃ root ∈ selection.roots, ∃ names ∈ selectedFiles fs root.path,
        path = recoveredPath unicode fileSet root names := by
  obtain ⟨found, mapped⟩ := manifest.exists_members texts
  have resolved : (resolveComplete urlParse fileSet reps).paths =
      PathBuf.sortDedup ((found.filterMap id).filterMap
        DirectoryMemberSource.path) := by
    simp [resolveComplete, structured, mapped,
      OutboundFileSetResolution.paths]
  rw [resolved, mem_sortDedup, List.mem_filterMap]
  constructor
  · rintro ⟨source, inMembers, hasPath⟩
    obtain ⟨_, inFound, rfl⟩ := List.mem_filterMap.mp inMembers
    obtain ⟨line, inSet, sourced⟩ :=
      (PartialMap.mem_of_mapM mapped).mp inFound
    rcases manifest.mem_lines.mp inSet with
      other | ⟨before, root, after, split, pending, inLines, rfl⟩
    · rw [manifest.directoryMemberSource_other other] at sourced
      cases sourced
    · by_cases isFile : pending.filePath = none
      · rw [manifest.directoryMemberSource_eq split inLines,
          if_pos isFile] at sourced
        cases sourced
        cases hasPath
      · obtain ⟨names, selected, fileLine⟩ :=
          exists_names_of_rootLines inLines isFile
        rw [manifest.directoryMemberSource_of_fileLine texts split selected
          inLines fileLine] at sourced
        cases sourced
        exact ⟨root, by simp [split], names, selected,
          (Option.some.inj hasPath).symm⟩
  · rintro ⟨root, inRoots, names, selected, rfl⟩
    obtain ⟨before, after, split⟩ := List.append_of_mem inRoots
    obtain ⟨pending, inLines, fileLine⟩ := exists_rootLines_of_names
      unicode (selection.topLevelCount + spans fs before) selected
    have inSet : classifyPending fs blake3 pending ∈ fileSet.lines :=
      manifest.mem_lines.mpr
        (Or.inr ⟨before, root, after, split, pending, inLines, rfl⟩)
    have sourced := manifest.directoryMemberSource_of_fileLine texts split
      selected inLines fileLine
    exact ⟨_, List.mem_filterMap.mpr
      ⟨_, (PartialMap.mem_of_mapM mapped).mpr ⟨_, inSet, sourced⟩, rfl⟩, rfl⟩

theorem rootVisits_of_flat
    (manifest : CompleteManifest unicode fs blake3 selection fileSet)
    (flat : fileSet.hasDirectoryStructure = false)
    (member : root ∈ selection.roots) :
    rootVisits fs root = none := by
  have directories := manifest.hasDirectoryStructure_iff
  rw [flat] at directories
  have notDirectory : ¬ fs.isDirectory root.path = true := fun directory =>
    Bool.false_ne_true (directories.mpr ⟨root, member, directory⟩)
  rw [(manifest.root_kind member).1] at notDirectory
  simpa using notDirectory

theorem mem_paths_flat
    (manifest : CompleteManifest unicode fs blake3 selection fileSet)
    (texts : RootTextsRecovered urlParse fs selection.roots)
    (flat : fileSet.hasDirectoryStructure = false) (reps : List PathBuf) :
    path ∈ (resolveComplete urlParse fileSet reps).paths ↔
      ∃ root ∈ selection.roots, ∃ names ∈ selectedFiles fs root.path,
        path = recoveredPath unicode fileSet root names := by
  have single : ∀ root ∈ selection.roots, ∀ next,
      rootLines unicode fs root next =
        [pendingFlatFile unicode root (rootExecutable fs root)] := by
    intro root member next
    rw [rootLines, manifest.rootVisits_of_flat flat member]
  have recovered : ∀ root ∈ selection.roots,
      manifestLinePath urlParse root.originalText = some root.path := by
    intro root member
    apply texts root member
    rw [selectedFiles_of_file (manifest.rootVisits_of_flat flat member)]
    exact List.cons_ne_nil _ _
  have fileLine_iff : ∀ line, line ∈ fileSet.fileLines ↔
      ∃ root ∈ selection.roots, line = classifyPending fs blake3
        (pendingFlatFile unicode root (rootExecutable fs root)) := by
    intro line
    rw [EntryFileSet.fileLines, List.mem_filter, manifest.mem_lines]
    constructor
    · rintro ⟨other | ⟨before, root, after, split, pending, inLines, rfl⟩,
        isFile⟩
      · rw [(manifest.wellFormed.other line other).2] at isFile
        cases isFile
      · have inRoots : root ∈ selection.roots := by simp [split]
        rw [single root inRoots, List.mem_singleton] at inLines
        exact ⟨root, inRoots, by rw [inLines]⟩
    · rintro ⟨root, inRoots, rfl⟩
      obtain ⟨before, after, split⟩ := List.append_of_mem inRoots
      have inLines : pendingFlatFile unicode root (rootExecutable fs root) ∈
          rootLines unicode fs root
            (selection.topLevelCount + spans fs before) := by
        simp [single root inRoots]
      obtain ⟨digest, _, hashed⟩ := manifest.classifyPending_isFile
        (mem_pendingLines.mpr ⟨before, root, after, split, inLines⟩) rfl
      exact ⟨Or.inr ⟨before, root, after, split, _, inLines, rfl⟩,
        by rw [hashed]; rfl⟩
  have textual : ∀ line ∈ fileSet.fileLines,
      (manifestLinePath urlParse line.originalText).isSome = true := by
    intro line member
    obtain ⟨root, inRoots, rfl⟩ := (fileLine_iff line).mp member
    have text : manifestLinePath urlParse (classifyPending fs blake3
        (pendingFlatFile unicode root
          (rootExecutable fs root))).originalText = some root.path :=
      recovered root inRoots
    rw [text]
    rfl
  obtain ⟨paths, mapped⟩ := PartialMap.exists_mapM_of_forall textual
  have resolved : (resolveComplete urlParse fileSet reps).paths =
      PathBuf.sortDedup paths := by
    simp [resolveComplete, flat, mapped, OutboundFileSetResolution.paths]
  rw [resolved, mem_sortDedup, PartialMap.mem_of_mapM mapped]
  constructor
  · rintro ⟨line, member, isPath⟩
    obtain ⟨root, inRoots, rfl⟩ := (fileLine_iff line).mp member
    have visited := manifest.rootVisits_of_flat flat inRoots
    have text := recovered root inRoots
    refine ⟨root, inRoots, [], by simp [selectedFiles_of_file visited], ?_⟩
    rw [recoveredPath, if_pos (manifest.rootIsFile_of_file inRoots visited)]
    exact Option.some.inj (isPath.symm.trans text)
  · rintro ⟨root, inRoots, names, _, rfl⟩
    have visited := manifest.rootVisits_of_flat flat inRoots
    refine ⟨_, (fileLine_iff _).mpr ⟨root, inRoots, rfl⟩, ?_⟩
    rw [recoveredPath, if_pos (manifest.rootIsFile_of_file inRoots visited)]
    exact recovered root inRoots

theorem mem_paths
    (manifest : CompleteManifest unicode fs blake3 selection fileSet)
    (texts : RootTextsRecovered urlParse fs selection.roots)
    (reps : List PathBuf) :
    path ∈ (resolveComplete urlParse fileSet reps).paths ↔
      ∃ root ∈ selection.roots, ∃ names ∈ selectedFiles fs root.path,
        path = recoveredPath unicode fileSet root names := by
  cases structured : fileSet.hasDirectoryStructure with
  | true => exact manifest.mem_paths_structured texts structured reps
  | false => exact manifest.mem_paths_flat texts structured reps

theorem lookup_of_hashed
    (manifest : CompleteManifest unicode fs blake3 selection fileSet)
    (member : path ∈ hashedPaths unicode fs selection) :
    ∃ executable content,
      fs.lookup path = some (.leaf (.file executable true content)) := by
  obtain ⟨pending, inPending, isFile⟩ := List.mem_filterMap.mp member
  obtain ⟨digest, hash, _⟩ := manifest.classifyPending_isFile inPending isFile
  unfold FileSystem.hashPath FileSystem.readFile at hash
  split at hash
  · rename_i executable content shown
    exact ⟨executable, content, shown⟩
  · cases hash

/-- A file below a directory is recovered exactly if the directory is not taken
for a file and the names are normal. -/
theorem recoveredPath_eq_iff
    (manifest : CompleteManifest unicode fs blake3 selection fileSet)
    (member : root ∈ selection.roots)
    (selected : names ∈ selectedFiles fs root.path) :
    recoveredPath unicode fileSet root names = root.path.pushAll names ↔
      (fileSet.rootIsFile root.rootIndex = true ↔
          fs.isRegularFile root.path = true) ∧
        ∀ name ∈ names, IsNormalName unicode name := by
  rcases manifest.root_shown member with
    ⟨listing, shown⟩ | ⟨executable, content, shown⟩
  · have nonempty := ne_nil_of_mem_selectedFiles shown selected
    have notRegular : fs.isRegularFile root.path = false := by
      simp [FileSystem.isRegularFile, shown]
    rw [recoveredPath, notRegular]
    by_cases marked : fileSet.rootIsFile root.rootIndex = true
    · rw [if_pos marked, PathBuf.pushAll_eq]
      constructor
      · intro same
        have sameComponents := congrArg PathBuf.components same
        simp [nonempty] at sameComponents
      · rintro ⟨correct, _⟩
        cases correct.mp marked
    · rw [if_neg marked]
      constructor
      · intro same
        refine ⟨by simp [marked], fun name inNames => ?_⟩
        have sameComponents := congrArg PathBuf.components same
        rw [components_join_relativeText unicode root.path nonempty,
          PathBuf.pushAll_eq] at sameComponents
        rw [← List.append_cancel_left sameComponents] at inNames
        obtain ⟨_, _, reread⟩ := List.mem_filterMap.mp inNames
        exact isNormalName_of_reread unicode reread
      · rintro ⟨_, normal⟩
        exact join_relativeText_of_normal unicode root.path nonempty normal
  · have isFile : rootVisits fs root = none := by simp [rootVisits, shown]
    rw [selectedFiles_of_file isFile, List.mem_singleton] at selected
    subst selected
    simp [recoveredPath, manifest.rootIsFile_of_file member isFile,
      FileSystem.isRegularFile, shown, PathBuf.pushAll]

end CompleteManifest

/-! ## Fidelity -/

structure PathsRecovered (unicode : UnicodeNormalization) (fs : FileSystem)
    (urlParse : UrlParse) (sent : SystemClipboardSnapshot)
    (selection : Selection) : Prop where
  fileClass : hashedPaths unicode fs selection ≠ [] →
    sent.representations.any ObservedClipboardRepresentation.isFile = true
  texts : RootTextsRecovered urlParse fs selection.roots
  classified : FlatRootsReached fs selection.roots
  normal : NamesNormal unicode fs selection.roots

/-- No selected root lies inside another one. -/
def RootsApart (roots : List TopLevelFileMember) : Prop :=
  ∀ root ∈ roots, ∀ other ∈ roots,
    root.path.components <+: other.path.components →
      root.path.components = other.path.components

namespace CompleteManifest

theorem mem_paths_iff_hashed
    (manifest : CompleteManifest unicode fs blake3 selection fileSet)
    (recovered : PathsRecovered unicode fs urlParse sent selection)
    (path : PathBuf) :
    path ∈ (resolveOutboundFileSet urlParse (.ok (some fileSet)) sent).paths ↔
      path ∈ hashedPaths unicode fs selection := by
  by_cases fileClass : sent.representations.any
      ObservedClipboardRepresentation.isFile = true
  · have marked := manifest.rootsMarked_iff.mpr recovered.classified
    rw [resolveOutboundFileSet_of_complete fileClass
        manifest.hasExcluded_eq_false,
      manifest.mem_paths recovered.texts, mem_hashedPaths]
    have exactly : ∀ root ∈ selection.roots,
        ∀ names ∈ selectedFiles fs root.path,
          recoveredPath unicode fileSet root names =
            root.path.pushAll names := by
      intro root member names selected
      exact (manifest.recoveredPath_eq_iff member selected).mpr
        ⟨marked root member, recovered.normal root member names selected⟩
    constructor
    · rintro ⟨root, member, names, selected, rfl⟩
      exact ⟨root, member, names, selected,
        exactly root member names selected⟩
    · rintro ⟨root, member, names, selected, rfl⟩
      exact ⟨root, member, names, selected,
        (exactly root member names selected).symm⟩
  · have none : hashedPaths unicode fs selection = [] := by
      by_contra nonempty
      exact fileClass (recovered.fileClass nonempty)
    rw [resolveOutboundFileSet_of_notFileClass _ fileClass, none]
    rfl

theorem selectedFiles_ne_nil_of_misclassified
    (manifest : CompleteManifest unicode fs blake3 selection fileSet)
    (member : root ∈ selection.roots) {listing : List (Component × FsTree)}
    (shown : fs.lookup root.path = some (.directory listing))
    (marked : fileSet.rootIsFile root.rootIndex = true) :
    ∃ names, names ∈ selectedFiles fs root.path := by
  obtain ⟨before, after, split⟩ := List.append_of_mem member
  have recognised := manifest.rootIndex_mem_directoryRoots_iff split
  have notListed : root.rootIndex ∉ fileSet.directoryRoots := by
    simpa [EntryFileSet.rootIsFile] using marked
  rw [recognised] at notListed
  obtain ⟨⟨names, leaf⟩, visited⟩ :=
    List.exists_mem_of_ne_nil _ (visits_ne_nil listing)
  cases leaf with
  | none =>
      exact absurd ⟨listing, shown, Or.inl ⟨_, visited, Or.inl rfl⟩⟩ notListed
  | some leaf =>
      exact ⟨names, (mem_selectedFiles_of_directory shown).mpr
        ⟨leaf, visited⟩⟩

theorem exists_recoveredPath
    (manifest : CompleteManifest unicode fs blake3 selection fileSet)
    (texts : RootTextsRecovered urlParse fs selection.roots)
    (published : path ∈
      (resolveOutboundFileSet urlParse (.ok (some fileSet)) sent).paths) :
    ∃ root ∈ selection.roots, ∃ names ∈ selectedFiles fs root.path,
      path = recoveredPath unicode fileSet root names := by
  by_cases fileClass : sent.representations.any
      ObservedClipboardRepresentation.isFile = true
  · rw [resolveOutboundFileSet_of_complete fileClass
      manifest.hasExcluded_eq_false] at published
    exact (manifest.mem_paths texts _).mp published
  · rw [resolveOutboundFileSet_of_notFileClass _ fileClass] at published
    cases published

theorem same_root_of_recovered
    (manifest : CompleteManifest unicode fs blake3 selection fileSet)
    (apart : RootsApart selection.roots)
    {root other : TopLevelFileMember} {names otherNames : List Component}
    (member : root ∈ selection.roots) (otherMember : other ∈ selection.roots)
    (otherSelected : otherNames ∈ selectedFiles fs other.path)
    (nonempty : names ≠ [])
    (same : root.path.pushAll names =
      recoveredPath unicode fileSet other otherNames) :
    fileSet.rootIsFile other.rootIndex = false ∧
      root.path.components = other.path.components ∧
      ∀ name ∈ names, IsNormalName unicode name := by
  by_cases taken : fileSet.rootIsFile other.rootIndex = true
  · -- the other root would lie inside this one
    rw [recoveredPath, if_pos taken, PathBuf.pushAll_eq] at same
    have components := congrArg PathBuf.components same
    have inside := apart root member other otherMember
      (List.prefix_iff_eq_append.mpr (by rw [← components]; simp))
    rw [← inside] at components
    simp [nonempty] at components
  · rcases manifest.root_shown otherMember with
      ⟨listing, shown⟩ | ⟨executable, content, shown⟩
    · have otherNonempty := ne_nil_of_mem_selectedFiles shown otherSelected
      rw [recoveredPath, if_neg taken, PathBuf.pushAll_eq] at same
      have components := congrArg PathBuf.components same
      rw [components_join_relativeText unicode other.path otherNonempty]
        at components
      have sameRoot : root.path.components = other.path.components := by
        rcases List.prefix_or_prefix_of_prefix
            (List.prefix_append root.path.components names)
            (components ▸ List.prefix_append other.path.components _) with
          inside | inside
        · exact apart root member other otherMember inside
        · exact (apart other otherMember root member inside).symm
      refine ⟨by simpa using taken, sameRoot, ?_⟩
      intro name inNames
      rw [sameRoot] at components
      rw [List.append_cancel_left components] at inNames
      obtain ⟨_, _, reread⟩ := List.mem_filterMap.mp inNames
      exact isNormalName_of_reread unicode reread
    · have isFile : rootVisits fs other = none := by simp [rootVisits, shown]
      exact absurd (manifest.rootIsFile_of_file otherMember isFile) taken

theorem pathsRecovered_of_published
    (manifest : CompleteManifest unicode fs blake3 selection fileSet)
    (apart : RootsApart selection.roots)
    (texts : RootTextsRecovered urlParse fs selection.roots)
    (published : ∀ root ∈ selection.roots,
      ∀ names ∈ selectedFiles fs root.path,
        root.path.pushAll names ∈
          (resolveOutboundFileSet urlParse (.ok (some fileSet)) sent).paths)
    (marked : ∀ root ∈ selection.roots,
      (fileSet.rootIsFile root.rootIndex = true ↔
        fs.isRegularFile root.path = true)) :
    PathsRecovered unicode fs urlParse sent selection := by
  refine ⟨?_, texts, manifest.rootsMarked_iff.mp marked, ?_⟩
  · intro nonempty
    by_contra notFileClass
    obtain ⟨path, hashed⟩ := List.exists_mem_of_ne_nil _ nonempty
    obtain ⟨root, member, names, selected, rfl⟩ := mem_hashedPaths.mp hashed
    have isPublished := published root member names selected
    rw [resolveOutboundFileSet_of_notFileClass _ notFileClass] at isPublished
    cases isPublished
  · intro root member names selected name inNames
    obtain ⟨other, otherMember, otherNames, otherSelected, same⟩ :=
      manifest.exists_recoveredPath texts (published root member names selected)
    exact (manifest.same_root_of_recovered apart member otherMember
      otherSelected (List.ne_nil_of_mem inNames) same).2.2 name inNames

theorem pathsRecovered_of_mem_paths
    (manifest : CompleteManifest unicode fs blake3 selection fileSet)
    (apart : RootsApart selection.roots)
    (texts : RootTextsRecovered urlParse fs selection.roots)
    (same : ∀ path,
      path ∈ (resolveOutboundFileSet urlParse (.ok (some fileSet))
          sent).paths ↔
        path ∈ hashedPaths unicode fs selection) :
    PathsRecovered unicode fs urlParse sent selection := by
  have published : ∀ root ∈ selection.roots,
      ∀ names ∈ selectedFiles fs root.path,
        root.path.pushAll names ∈
          (resolveOutboundFileSet urlParse (.ok (some fileSet))
            sent).paths := by
    intro root member names selected
    exact (same _).mpr
      (mem_hashedPaths.mpr ⟨root, member, names, selected, rfl⟩)
  apply manifest.pathsRecovered_of_published apart texts published
  intro root member
  rcases manifest.root_shown member with
    ⟨listing, shown⟩ | ⟨executable, content, shown⟩
  · -- a directory taken for a file would be published itself
    have notRegular : fs.isRegularFile root.path = false := by
      simp [FileSystem.isRegularFile, shown]
    rw [notRegular]
    constructor
    · intro taken
      obtain ⟨names, selected⟩ :=
        manifest.selectedFiles_ne_nil_of_misclassified member shown taken
      have fileClass : sent.representations.any
          ObservedClipboardRepresentation.isFile = true := by
        by_contra notFileClass
        have isPublished := published root member names selected
        rw [resolveOutboundFileSet_of_notFileClass _ notFileClass]
          at isPublished
        cases isPublished
      have recovered : recoveredPath unicode fileSet root names ∈
          (resolveOutboundFileSet urlParse (.ok (some fileSet))
            sent).paths := by
        rw [resolveOutboundFileSet_of_complete fileClass
          manifest.hasExcluded_eq_false]
        exact (manifest.mem_paths texts _).mpr
          ⟨root, member, names, selected, rfl⟩
      rw [recoveredPath, if_pos taken] at recovered
      obtain ⟨_, _, isFile⟩ :=
        manifest.lookup_of_hashed ((same _).mp recovered)
      rw [shown] at isFile
      cases isFile
    · intro impossible
      cases impossible
  · have isFile : rootVisits fs root = none := by simp [rootVisits, shown]
    simp [manifest.rootIsFile_of_file member isFile,
      FileSystem.isRegularFile, shown]

end CompleteManifest

theorem uriListMembers_text {rawLines : List String} {lineIndex rootIndex : Int}
    (member : root ∈ uriListMembers unicode urlParse rawLines lineIndex
      rootIndex) :
    parseUriListLine urlParse root.originalText = .file root.path := by
  induction rawLines generalizing lineIndex rootIndex with
  | nil => cases member
  | cons rawLine rest inductionHypothesis =>
      unfold uriListMembers at member
      split at member
      · rename_i path isFile
        rcases List.mem_cons.mp member with rfl | inRest
        · exact isFile
        · exact inductionHypothesis inRest
      · exact inductionHypothesis member

theorem rootTextsRecovered_of_uriList
    {snapshot : SystemClipboardSnapshot}
    (selected : selectTopLevel unicode urlParse snapshot = some selection)
    (noLocalFile : localFiles snapshot = []) :
    RootTextsRecovered urlParse fs selection.roots := by
  intro root member _
  have noMembers : localFileMembers unicode snapshot = [] := by
    simp [localFileMembers, noLocalFile]
  unfold selectTopLevel at selected
  simp only [noMembers, List.isEmpty_nil, if_true] at selected
  obtain ⟨text, _, rfl⟩ := Option.map_eq_some_iff.mp selected
  rw [manifestLinePath, uriListMembers_text member]

/-- Under the condition the resolution publishes exactly what capture hashed.
Where roots do not lie inside each other and their texts are recovered, as
those of a `uri-list` are, the condition is necessary too. -/
theorem manifestPaths_faithful
    {caps : FileSetCaps} {snapshot sent : SystemClipboardSnapshot}
    (selected : selectTopLevel unicode urlParse snapshot = some selection)
    (built : buildEntryFileSet unicode fs blake3 urlParse caps snapshot =
      some fileSet)
    (complete : fileSet.hasExcluded = false) :
    (PathsRecovered unicode fs urlParse sent selection →
        ∀ path,
          path ∈ (resolveOutboundFileSet urlParse (.ok (some fileSet))
              sent).paths ↔
            path ∈ hashedPaths unicode fs selection) ∧
      (RootsApart selection.roots →
        localFiles snapshot = [] ∨
          RootTextsRecovered urlParse fs selection.roots →
        (∀ path,
          path ∈ (resolveOutboundFileSet urlParse (.ok (some fileSet))
              sent).paths ↔
            path ∈ hashedPaths unicode fs selection) →
        PathsRecovered unicode fs urlParse sent selection) := by
  have manifest := buildEntryFileSet_complete selected built complete
  constructor
  · intro recovered path
    exact manifest.mem_paths_iff_hashed recovered path
  · intro apart textual same
    have texts : RootTextsRecovered urlParse fs selection.roots := by
      rcases textual with noLocalFile | recovered
      · exact rootTextsRecovered_of_uriList selected noLocalFile
      · exact recovered
    exact manifest.pathsRecovered_of_mem_paths apart texts same

end Fidelity

def orderedAlbums : SystemClipboardSnapshot :=
  uriListSnapshot "file:///b\nfile:///a"

theorem orderedAlbums_captured :
    selectTopLevel plainUnicode plainUrlParse orderedAlbums =
        some (albumSelection "file:///b\nfile:///a") ∧
      buildEntryFileSet plainUnicode twoAlbums positionalDigest plainUrlParse
          ⟨0, 0⟩ orderedAlbums =
        some (albumManifest "file:///b\nfile:///a") ∧
      (albumManifest "file:///b\nfile:///a").hasExcluded = false := by
  decide +kernel

theorem orderedAlbums_recovered :
    PathsRecovered plainUnicode twoAlbums plainUrlParse orderedAlbums
      (albumSelection "file:///b\nfile:///a") := by
  obtain ⟨selected, built, complete⟩ := orderedAlbums_captured
  have manifest := buildEntryFileSet_complete selected built complete
  refine ⟨by decide +kernel, ?_,
    manifest.rootsMarked_iff.mp (by decide +kernel), ?_⟩
  · exact rootTextsRecovered_of_uriList selected (by decide +kernel)
  · unfold NamesNormal IsNormalName
    decide +kernel

theorem manifestPaths_faithful_orderedAlbums :
    PathBuf.fromText "/b/2" ∈ hashedPaths plainUnicode twoAlbums
        (albumSelection "file:///b\nfile:///a") ∧
      ∀ path,
        path ∈ (resolveOutboundFileSet plainUrlParse
            (.ok (some (albumManifest "file:///b\nfile:///a")))
            orderedAlbums).paths ↔
          path ∈ hashedPaths plainUnicode twoAlbums
            (albumSelection "file:///b\nfile:///a") :=
  ⟨by decide +kernel,
    (manifestPaths_faithful orderedAlbums_captured.1
      orderedAlbums_captured.2.1 orderedAlbums_captured.2.2).1
        orderedAlbums_recovered⟩

def accentUnicode : UnicodeNormalization where
  nfc text := if text = "e\u0301" then "\u00e9" else text
  nfc_idempotent text := by
    by_cases accented : text = "e\u0301"
    · rw [if_pos accented]
      decide
    · rw [if_neg accented, if_neg accented]
  nfc_nonempty text nonempty := by
    by_cases accented : text = "e\u0301"
    · rw [if_pos accented]
      decide
    · rw [if_neg accented]
      exact nonempty
  nfc_noSeparator text clean := by
    by_cases accented : text = "e\u0301"
    · rw [if_pos accented]
      decide
    · rw [if_neg accented]
      exact clean

def decomposedName : FileSystem :=
  .ofTree (.directory
    [(plainName "d", .directory [(plainName "e\u0301", plainFile "x")])])
    (by decide +kernel)

def decomposedManifest : EntryFileSet :=
  (buildEntryFileSet accentUnicode decomposedName positionalDigest
    plainUrlParse ⟨0, 0⟩ (uriListSnapshot "file:///d")).getD ⟨[]⟩

def decomposedSelection : Selection :=
  (selectTopLevel accentUnicode plainUrlParse
    (uriListSnapshot "file:///d")).getD ⟨[], [], 0⟩

/-- The path that is published does not exist, the hashed one is not
published. -/
theorem decomposedName_not_faithful :
    selectTopLevel accentUnicode plainUrlParse (uriListSnapshot "file:///d") =
        some decomposedSelection ∧
      buildEntryFileSet accentUnicode decomposedName positionalDigest
          plainUrlParse ⟨0, 0⟩ (uriListSnapshot "file:///d") =
        some decomposedManifest ∧
      decomposedManifest.hasExcluded = false ∧
      PathBuf.fromText "/d/\u00e9" ∈
        (resolveOutboundFileSet plainUrlParse (.ok (some decomposedManifest))
          (uriListSnapshot "file:///d")).paths ∧
      PathBuf.fromText "/d/\u00e9" ∉
        hashedPaths accentUnicode decomposedName decomposedSelection ∧
      PathBuf.fromText "/d/e\u0301" ∈
        hashedPaths accentUnicode decomposedName decomposedSelection := by
  decide +kernel

end OpenClipboard
