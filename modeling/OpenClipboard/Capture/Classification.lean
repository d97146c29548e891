import OpenClipboard.Capture.Selection
import OpenClipboard.Library.PartialMap

/-!
# Which roots a complete manifest classifies as directories

Only the lines of a directory root can indicate one.  A member in a
subdirectory and an empty directory do so by their shape.  A member directly
in the root does so only if its line index reaches the number of rows, which
depends on how many members the later roots have.
-/

namespace OpenClipboard

open FileTree Text

/-! ## Text of relative paths -/

section Text

variable (unicode : UnicodeNormalization)

theorem nameText_noSeparator (name : Component) :
    '/' ∉ (nameText unicode name).toList :=
  unicode.nfc_noSeparator _ (toStringLossy_noSeparator name.noSeparator)

theorem nameText_ne_empty (name : Component) : nameText unicode name ≠ "" :=
  unicode.nfc_nonempty _ (toStringLossy_ne_empty name.nonempty)

theorem relativeText_eq_empty_iff (names : List Component) :
    relativeText unicode names = "" ↔ names = [] := by
  induction names using List.reverseRecOn with
  | nil => simp [relativeText]
  | append_singleton before name inductionHypothesis =>
      rw [relativeText_snoc, extendRelative]
      have named := nameText_ne_empty unicode name
      by_cases atRoot : relativeText unicode before = ""
      · simp [atRoot, named]
      · rw [if_neg atRoot]
        simp [atRoot]

theorem separator_mem_relativeText_iff (names : List Component) :
    '/' ∈ (relativeText unicode names).toList ↔ 2 ≤ names.length := by
  induction names using List.reverseRecOn with
  | nil => simp [relativeText]
  | append_singleton before name _ =>
      rw [relativeText_snoc, extendRelative]
      by_cases atRoot : relativeText unicode before = ""
      · have none := (relativeText_eq_empty_iff unicode before).mp atRoot
        subst none
        simp [atRoot, nameText_noSeparator unicode name]
      · have some : before ≠ [] :=
          fun none => atRoot ((relativeText_eq_empty_iff unicode before).mpr none)
        have positive := List.length_pos_iff.mpr some
        rw [if_neg atRoot]
        simp only [String.toList_append, List.mem_append, List.length_append,
          List.length_singleton]
        constructor
        · intro _
          omega
        · intro _
          exact Or.inl (Or.inr (by simp))

theorem normalizedBasename_noSeparator (path : PathBuf) :
    '/' ∉ (normalizedBasename unicode path).toList := by
  unfold normalizedBasename
  split
  · rename_i name _
    exact nameText_noSeparator unicode name
  · decide

end Text

/-! ## Which lines indicate a directory -/

variable {root : TopLevelFileMember} {before after : List TopLevelFileMember}

section Classification

variable {unicode : UnicodeNormalization} {fs : FileSystem} {blake3 : Blake3}

/-- An empty directory, or a member inside a subdirectory. -/
def Nested (visit : Visit) : Prop :=
  visit.2 = none ∨ 2 ≤ visit.1.length

theorem visitKind_regular
    {leaf : FsLeaf} (regular : leaf.isRegular = true) :
    visitKind (some leaf) = .file ∨ visitKind (some leaf) = .executable := by
  cases leaf with
  | file executable readable content =>
      cases executable with
      | false => exact Or.inl rfl
      | true => exact Or.inr rfl
  | symlink => cases regular
  | special => cases regular
  | unlistable => cases regular
  | inaccessible => cases regular

theorem visitLine_indicates_iff {lineIndex rowCount : Int} {visit : Visit}
    (visitable : Visitable visit) :
    (classifyPending fs blake3 (visitLine unicode root lineIndex
        visit)).indicatesDirectoryRoot rowCount = true ↔
      Nested visit ∨ rowCount ≤ lineIndex := by
  obtain ⟨names, leaf⟩ := visit
  rw [EntryFileSetLine.indicatesDirectoryRoot_iff]
  cases leaf with
  | none =>
      simp [classifyPending, visitLine, directoryMember, visitKind, Nested]
  | some leaf =>
      have separator := separator_mem_relativeText_iff unicode names
      have kind := visitKind_regular (visitable.2 leaf rfl)
      have notMarker : visitKind (some leaf) ≠ .emptyDirectory := by
        rcases kind with isFile | isExecutable
        · rw [isFile]
          decide
        · rw [isExecutable]
          decide
      simp [classifyPending, visitLine, directoryMember, visitText, Nested,
        notMarker, separator]

theorem flatFile_indicates_iff {executable : Bool} {rowCount : Int} :
    (classifyPending fs blake3 (pendingFlatFile unicode root
        executable)).indicatesDirectoryRoot rowCount = true ↔
      rowCount ≤ root.lineIndex := by
  have separator := normalizedBasename_noSeparator unicode root.path
  have notMarker : memberKind executable ≠ .emptyDirectory := by
    cases executable with
    | false => decide
    | true => decide
  rw [EntryFileSetLine.indicatesDirectoryRoot_iff]
  simp [classifyPending, pendingFlatFile, separator, notMarker]

theorem rootLines_rootIndex {next : Int} {pending : PendingFileSetLine}
    (member : pending ∈ rootLines unicode fs root next) :
    pending.memberLocation.rootIndex = root.rootIndex := by
  unfold rootLines at member
  split at member
  · obtain ⟨position, visit, _, rfl⟩ := mem_numbered.mp member
    rfl
  · rw [List.mem_singleton] at member
    subst member
    rfl

/-! ## Counting rows -/

def directoryTotal (fs : FileSystem) (roots : List TopLevelFileMember) : Nat :=
  roots.countP fun root => (rootVisits fs root).isSome

theorem pendingLines_length
    (roots : List TopLevelFileMember) (next : Int) :
    (pendingLines unicode fs roots next).length + directoryTotal fs roots =
      roots.length + spans fs roots := by
  induction roots generalizing next with
  | nil => rfl
  | cons root rest inductionHypothesis =>
      have later := inductionHypothesis (next + rootSpan fs root)
      simp only [directoryTotal, spans] at later ⊢
      rw [pendingLines, List.length_append, List.countP_cons, List.map_cons,
        List.sum_cons, List.length_cons]
      cases visited : rootVisits fs root with
      | none =>
          have single : (rootLines unicode fs root next).length = 1 := by
            simp [rootLines, visited]
          have noSpan : rootSpan fs root = 0 := by simp [rootSpan, visited]
          rw [Option.isSome_none, if_neg Bool.false_ne_true]
          omega
      | some found =>
          have spanned : (rootLines unicode fs root next).length =
              rootSpan fs root :=
            rootLines_length_of_directory visited
          rw [Option.isSome_some, if_pos rfl]
          omega

theorem rootSpan_pos (directory : (rootVisits fs root).isSome = true) :
    0 < rootSpan fs root := by
  unfold rootVisits at directory
  split at directory
  · rename_i listing shown
    have positive := List.length_pos_iff.mpr (visits_ne_nil listing)
    simpa [rootSpan, rootVisits, shown] using positive
  · cases directory

theorem directoryTotal_le_spans
    (fs : FileSystem) (roots : List TopLevelFileMember) :
    directoryTotal fs roots ≤ spans fs roots := by
  induction roots with
  | nil => exact Nat.le_refl 0
  | cons root rest inductionHypothesis =>
      simp only [directoryTotal, spans] at inductionHypothesis ⊢
      rw [List.countP_cons, List.map_cons, List.sum_cons]
      by_cases directory : (rootVisits fs root).isSome = true
      · have positive := rootSpan_pos directory
        rw [if_pos directory]
        omega
      · rw [if_neg directory]
        omega

theorem spans_eq_zero
    {roots : List TopLevelFileMember}
    (flat : ∀ root ∈ roots, rootVisits fs root = none) :
    spans fs roots = 0 := by
  induction roots with
  | nil => rfl
  | cons root rest inductionHypothesis =>
      have here := flat root List.mem_cons_self
      have later := inductionHypothesis fun tested member =>
        flat tested (List.mem_cons_of_mem _ member)
      simp only [spans] at later
      simp [spans, rootSpan, here, later]

theorem exists_last_directory
    {roots : List TopLevelFileMember}
    (directory : ∃ root ∈ roots, (rootVisits fs root).isSome = true) :
    ∃ before last after, roots = before ++ last :: after ∧
      (rootVisits fs last).isSome = true ∧ spans fs after = 0 := by
  induction roots with
  | nil => simp at directory
  | cons head tail inductionHypothesis =>
      by_cases later : ∃ root ∈ tail, (rootVisits fs root).isSome = true
      · obtain ⟨before, last, after, split, lastDirectory, none⟩ :=
          inductionHypothesis later
        exact ⟨head :: before, last, after, by rw [split]; rfl,
          lastDirectory, none⟩
      · obtain ⟨root, member, isDirectory⟩ := directory
        have atHead : root = head := by
          rcases List.mem_cons.mp member with rfl | inTail
          · rfl
          · exact absurd ⟨root, inTail, isDirectory⟩ later
        subst atHead
        refine ⟨[], root, tail, rfl, isDirectory, spans_eq_zero ?_⟩
        intro tested inTail
        have notDirectory : ¬ (rootVisits fs tested).isSome = true :=
          fun isSome => later ⟨tested, inTail, isSome⟩
        simpa using notDirectory

namespace CompleteManifest

variable {selection : Selection} {fileSet : EntryFileSet}

theorem rowCount_eq
    (manifest : CompleteManifest unicode fs blake3 selection fileSet) :
    fileSet.rowCount + directoryTotal fs selection.roots =
      selection.topLevelCount + spans fs selection.roots := by
  have counted : (pendingLines unicode fs selection.roots
      selection.topLevelCount).length + directoryTotal fs selection.roots =
        selection.roots.length + spans fs selection.roots :=
    pendingLines_length _ _
  have topLevel := manifest.wellFormed.count
  have rows := congrArg List.length manifest.lines_eq
  rw [(sortByLineIndex_perm _).length_eq, List.length_append,
    List.length_map] at rows
  simp only [EntryFileSet.rowCount]
  omega

theorem rootIndex_mem_directoryRoots
    (manifest : CompleteManifest unicode fs blake3 selection fileSet)
    (split : selection.roots = before ++ root :: after) :
    root.rootIndex ∈ fileSet.directoryRoots ↔
      ∃ pending ∈ rootLines unicode fs root
          (selection.topLevelCount + spans fs before),
        (classifyPending fs blake3 pending).indicatesDirectoryRoot
          fileSet.rowCount = true := by
  rw [EntryFileSet.mem_directoryRoots_iff]
  constructor
  · rintro ⟨line, member, indicates, located⟩
    rcases manifest.mem_lines.mp member with
      other | ⟨before', root', after', split', pending, inLines, rfl⟩
    · rw [(manifest.wellFormed.other line other).1] at located
      cases located
    · have sameIndex : root.rootIndex = root'.rootIndex := by
        rw [← rootLines_rootIndex inLines]
        simpa [classifyPending] using located.symm
      obtain ⟨rfl, rfl, rfl⟩ :=
        manifest.wellFormed.split_unique split split' sameIndex
      exact ⟨pending, inLines, indicates⟩
  · rintro ⟨pending, inLines, indicates⟩
    refine ⟨classifyPending fs blake3 pending, ?_, indicates, ?_⟩
    · exact manifest.mem_lines.mpr
        (Or.inr ⟨before, root, after, split, pending, inLines, rfl⟩)
    · rw [← rootLines_rootIndex inLines]
      rfl

/-- A root counts as a directory exactly if it is one and has a nested member,
or the later roots have fewer members than there are directories. -/
theorem rootIndex_mem_directoryRoots_iff
    (manifest : CompleteManifest unicode fs blake3 selection fileSet)
    (split : selection.roots = before ++ root :: after) :
    root.rootIndex ∈ fileSet.directoryRoots ↔
      ∃ listing, fs.lookup root.path = some (.directory listing) ∧
        ((∃ visit ∈ visits (.directory listing), Nested visit) ∨
          spans fs after < directoryTotal fs selection.roots) := by
  rw [manifest.rootIndex_mem_directoryRoots split]
  have member : root ∈ selection.roots := by simp [split]
  have rows := manifest.rowCount_eq
  have spanned : spans fs selection.roots =
      spans fs before + rootSpan fs root + spans fs after := by
    simp [split, spans, Nat.add_assoc]
  rcases manifest.root_shown member with
    ⟨listing, shown⟩ | ⟨executable, content, shown⟩
  · have visited : rootVisits fs root = some (visits (.directory listing)) := by
      simp [rootVisits, shown]
    have reached : ∀ visit ∈ visits (.directory listing), Visitable visit := by
      simpa [RootReached, shown] using manifest.reached root member
    have width : rootSpan fs root = (visits (.directory listing)).length := by
      simp [rootSpan, visited]
    have indicates_iff : ∀ (position : Nat) (visit : Visit),
        (visits (.directory listing))[position]? = some visit →
        ((classifyPending fs blake3 (visitLine unicode root
            (selection.topLevelCount + spans fs before + position)
            visit)).indicatesDirectoryRoot fileSet.rowCount = true ↔
          Nested visit ∨ rootSpan fs root + spans fs after ≤
            position + directoryTotal fs selection.roots) := by
      intro position visit found
      rw [visitLine_indicates_iff (reached visit
        (List.mem_of_getElem? found))]
      refine or_congr Iff.rfl ?_
      omega
    rw [rootLines, visited]
    simp only [shown, Option.some.injEq, Tree.directory.injEq,
      exists_eq_left']
    constructor
    · rintro ⟨pending, inLines, indicates⟩
      obtain ⟨position, visit, found, rfl⟩ := mem_numbered.mp inLines
      rcases (indicates_iff position visit found).mp indicates with
        nested | reaches
      · exact Or.inl ⟨visit, List.mem_of_getElem? found, nested⟩
      · have inside := (List.getElem?_eq_some_iff.mp found).1
        exact Or.inr (by omega)
    · rintro (⟨visit, inVisits, nested⟩ | few)
      · obtain ⟨position, found⟩ := List.mem_iff_getElem?.mp inVisits
        exact ⟨_, mem_numbered.mpr ⟨position, visit, found, rfl⟩,
          (indicates_iff position visit found).mpr (Or.inl nested)⟩
      · -- the last member has the largest index of the root
        have positive := List.length_pos_iff.mpr (visits_ne_nil listing)
        have inside : (visits (.directory listing)).length - 1 <
            (visits (.directory listing)).length := by omega
        have found := List.getElem?_eq_getElem inside
        refine ⟨_, mem_numbered.mpr ⟨_, _, found, rfl⟩,
          (indicates_iff _ _ found).mpr (Or.inr ?_)⟩
        omega
  · have single : rootLines unicode fs root
        (selection.topLevelCount + spans fs before) =
          [pendingFlatFile unicode root (rootExecutable fs root)] := by
      simp [rootLines, rootVisits, shown]
    have low := manifest.wellFormed.lineIndex root member
    have directories := directoryTotal_le_spans fs selection.roots
    rw [single]
    simp only [List.mem_singleton, exists_eq_left, shown, flatFile_indicates_iff]
    constructor
    · intro reaches
      omega
    · rintro ⟨listing, impossible, _⟩
      cases impossible

/-- The set is structured exactly if a directory was selected: at least the
last directory root is always recognised. -/
theorem hasDirectoryStructure_iff
    (manifest : CompleteManifest unicode fs blake3 selection fileSet) :
    fileSet.hasDirectoryStructure = true ↔
      ∃ root ∈ selection.roots, fs.isDirectory root.path = true := by
  rw [EntryFileSet.hasDirectoryStructure_iff]
  constructor
  · intro nonempty
    obtain ⟨rootIndex, indexed⟩ := List.exists_mem_of_ne_nil _ nonempty
    obtain ⟨line, member, indicates, located⟩ :=
      EntryFileSet.mem_directoryRoots_iff.mp indexed
    rcases manifest.mem_lines.mp member with
      other | ⟨before, root, after, split, pending, inLines, rfl⟩
    · rw [(manifest.wellFormed.other line other).1] at located
      cases located
    · have counted := (manifest.rootIndex_mem_directoryRoots split).mpr
        ⟨pending, inLines, indicates⟩
      obtain ⟨listing, shown, _⟩ :=
        (manifest.rootIndex_mem_directoryRoots_iff split).mp counted
      exact ⟨root, by simp [split], by simp [FileSystem.isDirectory, shown]⟩
  · rintro ⟨root, member, directory⟩
    have visited := (manifest.root_kind member).1.mp directory
    obtain ⟨before, last, after, split, lastDirectory, none⟩ :=
      exists_last_directory ⟨root, member, visited⟩
    have inRoots : last ∈ selection.roots := by simp [split]
    have counted : 0 < directoryTotal fs selection.roots :=
      List.countP_pos_iff.mpr ⟨last, inRoots, lastDirectory⟩
    rcases manifest.root_shown inRoots with
      ⟨listing, shown⟩ | ⟨executable, content, shown⟩
    · have indexed := (manifest.rootIndex_mem_directoryRoots_iff split).mpr
        ⟨listing, shown, Or.inr (by omega)⟩
      exact List.ne_nil_of_mem indexed
    · simp [rootVisits, shown] at lastDirectory

/-! ## The two identity components -/

theorem rootLines_kind (reached : RootReached fs root) {next : Int}
    {pending : PendingFileSetLine}
    (member : pending ∈ rootLines unicode fs root next) :
    (pending.filePath = none ∧
        pending.memberLocation.kind = .emptyDirectory) ∨
      ∃ path, pending.filePath = some path ∧
        (pending.memberLocation.kind = .file ∨
          pending.memberLocation.kind = .executable) := by
  unfold rootLines at member
  split at member
  · rename_i visited isVisited
    obtain ⟨position, ⟨names, leaf⟩, found, rfl⟩ := mem_numbered.mp member
    cases leaf with
    | none => exact Or.inl ⟨rfl, rfl⟩
    | some leaf =>
        have visitable : Visitable (names, some leaf) := by
          unfold rootVisits at isVisited
          split at isVisited
          · rename_i listing shown
            cases isVisited
            rw [RootReached, shown] at reached
            exact reached _ (List.mem_of_getElem? found)
          · cases isVisited
        exact Or.inr ⟨_, rfl, visitKind_regular (visitable.2 leaf rfl)⟩
  · rw [List.mem_singleton] at member
    subst member
    refine Or.inr ⟨root.path, rfl, ?_⟩
    cases rootExecutable fs root with
    | false => exact Or.inl rfl
    | true => exact Or.inr rfl

theorem componentLeaf_isSome
    (manifest : CompleteManifest unicode fs blake3 selection fileSet)
    {line : EntryFileSetLine} (member : line ∈ fileSet.lines) :
    ∃ leaf, EntryFileSet.componentLeaf blake3 line = some leaf ∧
      (line.kind.isFile = true → leaf.isSome = true) := by
  rcases manifest.mem_lines.mp member with
    other | ⟨before, root, after, split, pending, inLines, rfl⟩
  · obtain ⟨unlocated, nonFile⟩ := manifest.wellFormed.other line other
    exact ⟨none, by simp [EntryFileSet.componentLeaf, unlocated, nonFile],
      by simp [nonFile, EntryFileSetLineKind.isFile]⟩
  · have inRoots : root ∈ selection.roots := by simp [split]
    have included := manifest.hashed pending
      (mem_pendingLines.mpr ⟨before, root, after, split, inLines⟩)
    rcases rootLines_kind (manifest.reached root inRoots) inLines with
      ⟨noPath, marker⟩ | ⟨path, isFile, kind⟩
    · simp [EntryFileSet.componentLeaf, classifyPending, noPath, marker,
        EntryFileSetLineKind.isFile]
    · cases hash : fs.hashPath blake3 path with
      | none =>
          simp [classifyPending, isFile, classifyFilePath, hash,
            EntryFileSetLineKind.isExcluded] at included
      | some digest =>
          rcases kind with isFileKind | isExecutable
          · simp [EntryFileSet.componentLeaf, classifyPending, isFile,
              classifyFilePath, hash, isFileKind]
          · simp [EntryFileSet.componentLeaf, classifyPending, isFile,
              classifyFilePath, hash, isExecutable]

theorem hasExcluded_eq_false
    (manifest : CompleteManifest unicode fs blake3 selection fileSet) :
    fileSet.hasExcluded = false := by
  refine List.any_eq_false.mpr fun line member => ?_
  rcases manifest.mem_lines.mp member with
    other | ⟨before, root, after, split, pending, inLines, rfl⟩
  · simp [(manifest.wellFormed.other line other).2,
      EntryFileSetLineKind.isExcluded]
  · have included := manifest.hashed pending
      (mem_pendingLines.mpr ⟨before, root, after, split, inLines⟩)
    simp [included]

theorem fileSetV1Component_isSome_iff
    (manifest : CompleteManifest unicode fs blake3 selection fileSet)
    (someFile : fileSet.fileLines ≠ []) :
    (fileSet.fileSetV1Component blake3).isSome = true ↔
      fileSet.hasDirectoryStructure = true := by
  have complete := manifest.hasExcluded_eq_false
  cases structured : fileSet.hasDirectoryStructure with
  | false => simp [EntryFileSet.fileSetV1Component, structured]
  | true =>
      obtain ⟨found, mapped⟩ := PartialMap.exists_mapM_of_forall
        (f := EntryFileSet.componentLeaf blake3) fun line member => by
          obtain ⟨leaf, accepted, _⟩ := manifest.componentLeaf_isSome member
          simp [accepted]
      obtain ⟨line, inFiles⟩ := List.exists_mem_of_ne_nil _ someFile
      obtain ⟨member, isFile⟩ := List.mem_filter.mp inFiles
      obtain ⟨leaf, accepted, present⟩ := manifest.componentLeaf_isSome member
      obtain ⟨digest, rfl⟩ := Option.isSome_iff_exists.mp (present isFile)
      have inFound : some digest ∈ found :=
        (PartialMap.mem_of_mapM mapped).mpr ⟨line, member, accepted⟩
      have nonempty : found.filterMap id ≠ [] :=
        List.ne_nil_of_mem (List.mem_filterMap.mpr ⟨_, inFound, rfl⟩)
      rw [EntryFileSet.fileSetV1Component, structured, complete, mapped]
      simp only [Bool.not_true, Bool.or_self, Bool.false_eq_true, if_false,
        List.isEmpty_iff, if_neg nonempty, Option.isSome_some]

theorem contentDigestContribution_ne_nil_iff
    (manifest : CompleteManifest unicode fs blake3 selection fileSet)
    (someFile : fileSet.fileLines ≠ []) :
    fileSet.contentDigestContribution ≠ [] ↔
      fileSet.hasDirectoryStructure = false := by
  have complete := manifest.hasExcluded_eq_false
  cases structured : fileSet.hasDirectoryStructure with
  | true => simp [EntryFileSet.contentDigestContribution, structured]
  | false =>
      obtain ⟨line, inFiles⟩ := List.exists_mem_of_ne_nil _ someFile
      obtain ⟨member, isFile⟩ := List.mem_filter.mp inFiles
      cases kind : line.kind with
      | nonFile => simp [kind, EntryFileSetLineKind.isFile] at isFile
      | excluded reason => simp [kind, EntryFileSetLineKind.isFile] at isFile
      | file contentHash blobId sizeBytes =>
          have hashed : contentHash ∈ fileSet.lines.filterMap fun line =>
              line.kind.contentHash? :=
            List.mem_filterMap.mpr
              ⟨line, member, by simp [kind, EntryFileSetLineKind.contentHash?]⟩
          have contributes : contentHash ∈ fileSet.contentDigestContribution := by
            rw [EntryFileSet.contentDigestContribution, structured, complete]
            exact (sortDigests_perm _).mem_iff.mpr hashed
          simp [List.ne_nil_of_mem contributes]

end CompleteManifest

end Classification

/-! ## When the classification is right -/

def IsFlatDirectory (fs : FileSystem) (path : PathBuf) : Prop :=
  ∃ listing, fs.lookup path = some (.directory listing) ∧ listing ≠ [] ∧
    ∀ entry ∈ listing, ∃ leaf, entry.2 = .leaf leaf

def memberCount (fs : FileSystem) (root : TopLevelFileMember) : Nat :=
  match fs.lookup root.path with
  | some (.directory listing) =>
      (Tree.members (.directory listing)).length
  | _ => 0

/-- Every flat directory is followed by fewer directory members than there are
selected directories. -/
def FlatRootsReached (fs : FileSystem) (roots : List TopLevelFileMember) :
    Prop :=
  ∀ before root after, roots = before ++ root :: after →
    IsFlatDirectory fs root.path →
      (after.map (memberCount fs)).sum <
        roots.countP fun tested => fs.isDirectory tested.path

theorem rootSpan_eq_memberCount
    (fs : FileSystem) (root : TopLevelFileMember) :
    rootSpan fs root = memberCount fs root := by
  unfold rootSpan rootVisits memberCount
  cases fs.lookup root.path with
  | none => rfl
  | some tree =>
      cases tree with
      | leaf leaf => rfl
      | directory listing => exact (visits_perm listing).length_eq

theorem isFlatDirectory_iff
    {fs : FileSystem} {path : PathBuf} {listing : List (Component × FsTree)}
    (shown : fs.lookup path = some (.directory listing)) :
    IsFlatDirectory fs path ↔
      ¬ ∃ visit ∈ visits (.directory listing), Nested visit := by
  have flat := Tree.entries_leaves_iff listing
  simp only [IsFlatDirectory, shown, Option.some.injEq,
    Tree.directory.injEq, exists_eq_left']
  rw [flat]
  constructor
  · rintro direct ⟨visit, member, nested⟩
    obtain ⟨present, short⟩ :=
      direct visit ((visits_perm listing).mem_iff.mp member)
    rcases nested with marker | deep
    · exact present marker
    · omega
  · intro noNested visit member
    have inVisits := (visits_perm listing).mem_iff.mpr member
    constructor
    · intro marker
      exact noNested ⟨visit, inVisits, Or.inl marker⟩
    · by_contra deep
      exact noNested ⟨visit, inVisits, Or.inr (by omega)⟩

section Correctness

variable {unicode : UnicodeNormalization} {fs : FileSystem} {blake3 : Blake3}
variable {selection : Selection} {fileSet : EntryFileSet}

namespace CompleteManifest

theorem directoryTotal_eq
    (manifest : CompleteManifest unicode fs blake3 selection fileSet) :
    directoryTotal fs selection.roots =
      selection.roots.countP fun root => fs.isDirectory root.path := by
  apply List.countP_congr
  intro root member
  exact (manifest.root_kind member).1.symm

theorem rootIsFile_iff
    (manifest : CompleteManifest unicode fs blake3 selection fileSet)
    (split : selection.roots = before ++ root :: after) :
    (fileSet.rootIsFile root.rootIndex = true ↔
        fs.isRegularFile root.path = true) ↔
      (IsFlatDirectory fs root.path →
        (after.map (memberCount fs)).sum <
          selection.roots.countP fun tested => fs.isDirectory tested.path) := by
  have member : root ∈ selection.roots := by simp [split]
  have recognised := manifest.rootIndex_mem_directoryRoots_iff split
  have laterMembers : spans fs after = (after.map (memberCount fs)).sum := by
    rw [spans, List.map_congr_left fun later _ =>
      rootSpan_eq_memberCount fs later]
  rw [manifest.directoryTotal_eq, laterMembers] at recognised
  have mark : fileSet.rootIsFile root.rootIndex = true ↔
      root.rootIndex ∉ fileSet.directoryRoots := by
    simp [EntryFileSet.rootIsFile]
  rw [mark, recognised]
  rcases manifest.root_shown member with
    ⟨listing, shown⟩ | ⟨executable, content, shown⟩
  · have directory : fs.isRegularFile root.path = false := by
      simp [FileSystem.isRegularFile, shown]
    rw [isFlatDirectory_iff shown, directory]
    simp only [shown, Option.some.injEq, Tree.directory.injEq,
      exists_eq_left', Bool.false_eq_true, iff_false, not_not]
    exact or_iff_not_imp_left
  · have regular : fs.isRegularFile root.path = true := by
      simp [FileSystem.isRegularFile, shown]
    have notDirectory : ¬ IsFlatDirectory fs root.path := by
      rintro ⟨listing, impossible, _⟩
      rw [shown] at impossible
      cases impossible
    simp [shown, regular, notDirectory]

/-- The marks are right on all roots exactly if every flat directory is
reached by the row count. -/
theorem rootsMarked_iff
    (manifest : CompleteManifest unicode fs blake3 selection fileSet) :
    (∀ root ∈ selection.roots, fileSet.rootIsFile root.rootIndex = true ↔
        fs.isRegularFile root.path = true) ↔
      FlatRootsReached fs selection.roots := by
  constructor
  · intro marked before root after split
    exact (manifest.rootIsFile_iff split).mp
      (marked root (by simp [split]))
  · intro reached root member
    obtain ⟨before, after, split⟩ := List.append_of_mem member
    exact (manifest.rootIsFile_iff split).mpr
      (reached before root after split)

end CompleteManifest

end Correctness


end OpenClipboard
