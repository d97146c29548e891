import OpenClipboard.Capture.Manifest

/-!
# Top-level selections

The roots of a selection are numbered in order, and every top-level line is
either a root's or a line that is no file.
-/

namespace OpenClipboard

open Text

structure Selection.WellFormed (selection : Selection) : Prop where
  rootIndex : ∀ (position : Nat) (root : TopLevelFileMember),
    selection.roots[position]? = some root → root.rootIndex = position
  lineIndex : ∀ root ∈ selection.roots,
    root.lineIndex < selection.topLevelCount
  count : selection.otherLines.length + selection.roots.length =
    selection.topLevelCount
  other : ∀ line ∈ selection.otherLines,
    line.memberLocation = none ∧ line.kind = .nonFile

variable {rawLines : List String} {root : TopLevelFileMember}

section Selection

variable {unicode : UnicodeNormalization} {urlParse : UrlParse}

theorem uriListMembers_rootIndex {lineIndex rootIndex : Int} {position : Nat}
    (found : (uriListMembers unicode urlParse rawLines lineIndex
      rootIndex)[position]? = some root) :
    root.rootIndex = rootIndex + position := by
  induction rawLines generalizing lineIndex rootIndex position with
  | nil => simp [uriListMembers] at found
  | cons rawLine rest inductionHypothesis =>
      unfold uriListMembers at found
      split at found
      · cases position with
        | zero =>
            simp only [List.getElem?_cons_zero, Option.some.injEq] at found
            subst found
            simp
        | succ position =>
            rw [List.getElem?_cons_succ] at found
            have later := inductionHypothesis found
            push_cast
            omega
      · exact inductionHypothesis found

theorem uriListMembers_lineIndex {lineIndex rootIndex : Int}
    (member : root ∈ uriListMembers unicode urlParse rawLines lineIndex
      rootIndex) :
    root.lineIndex < lineIndex + rawLines.length := by
  induction rawLines generalizing lineIndex rootIndex with
  | nil => cases member
  | cons rawLine rest inductionHypothesis =>
      have later : ∀ nextRoot, root ∈ uriListMembers unicode urlParse rest
          (lineIndex + 1) nextRoot →
            root.lineIndex < lineIndex + (rawLine :: rest).length := by
        intro nextRoot inRest
        have bound := inductionHypothesis inRest
        simp only [List.length_cons]
        push_cast
        omega
      unfold uriListMembers at member
      split at member
      · rcases List.mem_cons.mp member with rfl | inRest
        · simp only [List.length_cons]
          push_cast
          omega
        · exact later _ inRest
      · exact later _ member

theorem uriList_length
    (rawLines : List String) (lineIndex rootIndex : Int) :
    (nonFileLines urlParse rawLines lineIndex).length +
        (uriListMembers unicode urlParse rawLines lineIndex
          rootIndex).length =
      rawLines.length := by
  induction rawLines generalizing lineIndex rootIndex with
  | nil => rfl
  | cons rawLine rest inductionHypothesis =>
      unfold nonFileLines uriListMembers
      cases parseUriListLine urlParse rawLine with
      | file path =>
          have later := inductionHypothesis (lineIndex + 1) (rootIndex + 1)
          simp only [List.length_cons]
          omega
      | nonFile =>
          have later := inductionHypothesis (lineIndex + 1) rootIndex
          simp only [List.length_cons]
          omega

theorem nonFileLines_other {lineIndex : Int} {line : EntryFileSetLine}
    (member : line ∈ nonFileLines urlParse rawLines lineIndex) :
    line.memberLocation = none ∧ line.kind = .nonFile := by
  induction rawLines generalizing lineIndex with
  | nil => cases member
  | cons rawLine rest inductionHypothesis =>
      unfold nonFileLines at member
      split at member
      · exact inductionHypothesis member
      · rcases List.mem_cons.mp member with rfl | inRest
        · exact ⟨rfl, rfl⟩
        · exact inductionHypothesis inRest

theorem selectTopLevel_wellFormed
    {snapshot : SystemClipboardSnapshot} {selection : Selection}
    (selected : selectTopLevel unicode urlParse snapshot =
      some selection) :
    selection.WellFormed := by
  unfold selectTopLevel at selected
  simp only at selected
  split at selected
  · obtain ⟨text, _, rfl⟩ := Option.map_eq_some_iff.mp selected
    refine ⟨?_, ?_, uriList_length _ _ _, fun _ => nonFileLines_other⟩
    · intro position root found
      simpa using uriListMembers_rootIndex found
    · intro root member
      simpa using uriListMembers_lineIndex member
  · simp only [Option.some.injEq] at selected
    subst selected
    have numbering : ∀ (position : Nat) (root : TopLevelFileMember),
        (localFileMembers unicode snapshot)[position]? = some root →
          root.rootIndex = position ∧ root.lineIndex = position := by
      intro position root found
      simp only [localFileMembers, List.getElem?_mapIdx,
        Option.map_eq_some_iff] at found
      obtain ⟨file, _, rfl⟩ := found
      exact ⟨rfl, rfl⟩
    refine ⟨fun position root found => (numbering position root found).1,
      ?_, by simp, by simp⟩
    intro root member
    obtain ⟨position, found⟩ := List.mem_iff_getElem?.mp member
    rw [(numbering position root found).2]
    have inside := (List.getElem?_eq_some_iff.mp found).1
    exact_mod_cast inside

theorem Selection.WellFormed.rootIndex_eq {selection : Selection}
    (wellFormed : selection.WellFormed) {before after : List TopLevelFileMember}
    (split : selection.roots = before ++ root :: after) :
    root.rootIndex = before.length := by
  apply wellFormed.rootIndex
  rw [split]
  simp

theorem Selection.WellFormed.split_unique
    {selection : Selection} (wellFormed : selection.WellFormed)
    {before after before' after' : List TopLevelFileMember}
    {root root' : TopLevelFileMember}
    (split : selection.roots = before ++ root :: after)
    (split' : selection.roots = before' ++ root' :: after')
    (sameIndex : root.rootIndex = root'.rootIndex) :
    before = before' ∧ root = root' ∧ after = after' := by
  have sameLength : before.length = before'.length := by
    have position := wellFormed.rootIndex_eq split
    have position' := wellFormed.rootIndex_eq split'
    omega
  have sameRoots := split.symm.trans split'
  obtain ⟨sameBefore, sameRest⟩ := List.append_inj sameRoots sameLength
  simp only [List.cons.injEq] at sameRest
  exact ⟨sameBefore, sameRest.1, sameRest.2⟩

/-! ## Complete manifests -/

/-- What a manifest without excluded lines is, in terms of its selection. -/
structure CompleteManifest
    (unicode : UnicodeNormalization) (fs : FileSystem) (blake3 : Blake3)
    (selection : Selection) (fileSet : EntryFileSet) : Prop where
  wellFormed : selection.WellFormed
  lines_eq : fileSet.lines = sortByLineIndex (selection.otherLines ++
    (pendingLines unicode fs selection.roots selection.topLevelCount).map
      (classifyPending fs blake3))
  reached : ∀ root ∈ selection.roots, RootReached fs root
  hashed : ∀ pending ∈
      pendingLines unicode fs selection.roots selection.topLevelCount,
    (classifyPending fs blake3 pending).kind.isExcluded = false

variable {fs : FileSystem} {blake3 : Blake3} {caps : FileSetCaps}

theorem buildEntryFileSet_complete
    {snapshot : SystemClipboardSnapshot} {selection : Selection}
    {fileSet : EntryFileSet}
    (selected : selectTopLevel unicode urlParse snapshot = some selection)
    (built : buildEntryFileSet unicode fs blake3 urlParse caps snapshot =
      some fileSet)
    (complete : fileSet.hasExcluded = false) :
    CompleteManifest unicode fs blake3 selection fileSet := by
  rw [buildEntryFileSet, selected, Option.map_some,
    Option.some.injEq] at built
  subst built
  obtain ⟨linesEq, reached, hashed⟩ :=
    buildFileMemberLines_complete complete
  exact ⟨selectTopLevel_wellFormed selected, linesEq, reached, hashed⟩

namespace CompleteManifest

variable {selection : Selection} {fileSet : EntryFileSet}

theorem mem_lines
    (manifest : CompleteManifest unicode fs blake3 selection fileSet)
    {line : EntryFileSetLine} :
    line ∈ fileSet.lines ↔
      line ∈ selection.otherLines ∨
        ∃ before root after, selection.roots = before ++ root :: after ∧
          ∃ pending ∈ rootLines unicode fs root
              (selection.topLevelCount + spans fs before),
            line = classifyPending fs blake3 pending := by
  rw [manifest.lines_eq, (sortByLineIndex_perm _).mem_iff, List.mem_append,
    List.mem_map]
  constructor
  · rintro (other | ⟨pending, member, rfl⟩)
    · exact Or.inl other
    · obtain ⟨before, root, after, split, inLines⟩ :=
        mem_pendingLines.mp member
      exact Or.inr ⟨before, root, after, split, pending, inLines, rfl⟩
  · rintro (other | ⟨before, root, after, split, pending, inLines, rfl⟩)
    · exact Or.inl other
    · exact Or.inr ⟨pending,
        mem_pendingLines.mpr ⟨before, root, after, split, inLines⟩, rfl⟩

/-- Every root is a regular file that can be read, or a directory. -/
theorem root_shown
    (manifest : CompleteManifest unicode fs blake3 selection fileSet)
    (member : root ∈ selection.roots) :
    (∃ listing, fs.lookup root.path = some (.directory listing)) ∨
      ∃ executable content,
        fs.lookup root.path = some (.leaf (.file executable true content)) := by
  obtain ⟨before, after, split⟩ := List.append_of_mem member
  have reached := manifest.reached root member
  have hashed : ∀ executable,
      rootLines unicode fs root
          (selection.topLevelCount + spans fs before) =
        [pendingFlatFile unicode root executable] →
      (fs.hashPath blake3 root.path).isSome = true := by
    intro executable single
    have included := manifest.hashed (pendingFlatFile unicode root executable)
      (mem_pendingLines.mpr ⟨before, root, after, split, by simp [single]⟩)
    cases hash : fs.hashPath blake3 root.path with
    | some digest => rfl
    | none =>
        simp [classifyPending, pendingFlatFile, classifyFilePath, hash,
          EntryFileSetLineKind.isExcluded] at included
  cases shown : fs.lookup root.path with
  | none =>
      have impossible := hashed (rootExecutable fs root)
        (by simp [rootLines, rootVisits, shown])
      simp [FileSystem.hashPath, FileSystem.readFile, shown] at impossible
  | some tree =>
      cases tree with
      | directory listing => exact Or.inl ⟨listing, rfl⟩
      | leaf leaf =>
          have readable := hashed (rootExecutable fs root)
            (by simp [rootLines, rootVisits, shown])
          cases leaf with
          | file executable readability content =>
              cases readability with
              | true => exact Or.inr ⟨executable, content, rfl⟩
              | false =>
                  simp [FileSystem.hashPath, FileSystem.readFile, shown]
                    at readable
          | symlink => simp [RootReached, shown] at reached
          | special => simp [RootReached, shown] at reached
          | unlistable => simp [RootReached, shown] at reached
          | inaccessible =>
              simp [FileSystem.hashPath, FileSystem.readFile, shown]
                at readable

theorem root_kind
    (manifest : CompleteManifest unicode fs blake3 selection fileSet)
    (member : root ∈ selection.roots) :
    (fs.isDirectory root.path = true ↔
        (rootVisits fs root).isSome = true) ∧
      (fs.isRegularFile root.path = true ↔ rootVisits fs root = none) := by
  rcases manifest.root_shown member with
    ⟨listing, shown⟩ | ⟨executable, content, shown⟩
  · simp [FileSystem.isDirectory, FileSystem.isRegularFile, rootVisits, shown]
  · simp [FileSystem.isDirectory, FileSystem.isRegularFile, rootVisits, shown]

end CompleteManifest

end Selection

end OpenClipboard
