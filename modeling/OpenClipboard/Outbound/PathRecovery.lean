import OpenClipboard.Outbound.RootMarks

/-!
# Recovering the paths that capture hashed

Capture hashes the path of each selected file and of each member below a
selected directory.  The outbound path recovers them from the manifest: the
root from the text of its line, a member from its normalized relative path.
-/

namespace OpenClipboard

open FileTree Text

/-! ## Relative paths as text -/

variable {names : List Component} {root : TopLevelFileMember}

section Text

variable (unicode : UnicodeNormalization)

theorem intercalate_snoc
    {separator : OsString} {before : List OsString} {last : OsString}
    (nonempty : before ≠ []) :
    List.intercalate separator (before ++ [last]) =
      List.intercalate separator before ++ separator ++ last := by
  induction before with
  | nil => exact absurd rfl nonempty
  | cons head tail inductionHypothesis =>
      cases tail with
      | nil => simp [List.intercalate]
      | cons second rest =>
          have later := inductionHypothesis (List.cons_ne_nil second rest)
          simp only [List.cons_append, List.intercalate_cons_cons] at later ⊢
          rw [later]
          simp only [List.append_assoc]

theorem asBytes_relativeText (names : List Component) :
    asBytes (relativeText unicode names) =
      List.intercalate [0x2F]
        (names.map fun name => asBytes (nameText unicode name)) := by
  induction names using List.reverseRecOn with
  | nil => rfl
  | append_singleton before name inductionHypothesis =>
      rw [relativeText_snoc, extendRelative]
      by_cases atRoot : relativeText unicode before = ""
      · have none := (relativeText_eq_empty_iff unicode before).mp atRoot
        subst none
        simp [atRoot]
      · have some : before ≠ [] :=
          fun none => atRoot ((relativeText_eq_empty_iff unicode before).mpr none)
        have slash : asBytes "/" = [0x2F] := by decide
        rw [if_neg atRoot, asBytes_append, asBytes_append,
          inductionHypothesis, slash, List.map_append, List.map_singleton,
          intercalate_snoc (by simpa using some)]

/-- The component that a name becomes when its normalized text is read back as
a path. -/
def rereadName (name : Component) : Option Component :=
  Component.ofBytes (asBytes (nameText unicode name))

theorem splitOn_relativeText (nonempty : names ≠ []) :
    (asBytes (relativeText unicode names)).splitOn 0x2F =
      names.map fun name => asBytes (nameText unicode name) := by
  rw [asBytes_relativeText]
  apply List.splitOn_intercalate
  · intro piece member
    obtain ⟨name, _, rfl⟩ := List.mem_map.mp member
    rw [separator_mem_asBytes_iff]
    exact nameText_noSeparator unicode name
  · simpa using nonempty

theorem asBytes_nameText_ne_nil (name : Component) :
    asBytes (nameText unicode name) ≠ [] := by
  intro none
  exact nameText_ne_empty unicode name
    (asBytes_injective (none.trans (by decide)))

theorem components_fromText_relativeText (nonempty : names ≠ []) :
    (PathBuf.fromText (relativeText unicode names)).components =
      names.filterMap (rereadName unicode) := by
  rw [PathBuf.fromText, PathBuf.ofOsStr, splitOn_relativeText unicode nonempty,
    List.filterMap_map]
  rfl

theorem isAbsolute_fromText_relativeText (nonempty : names ≠ []) :
    (PathBuf.fromText (relativeText unicode names)).isAbsolute = false := by
  rw [PathBuf.isAbsolute, PathBuf.fromText, PathBuf.ofOsStr,
    splitOn_relativeText unicode nonempty]
  cases names with
  | nil => exact absurd rfl nonempty
  | cons first rest =>
      have named := asBytes_nameText_ne_nil unicode first
      simp only [List.map_cons, PathBuf.startOf]
      split
      · rename_i absent
        simp only [List.cons.injEq] at absent
        exact absurd absent.1 named
      · rfl
      · rfl

theorem components_join_relativeText (path : PathBuf) (nonempty : names ≠ []) :
    (path.join (PathBuf.fromText (relativeText unicode names))).components =
      path.components ++ names.filterMap (rereadName unicode) := by
  rw [PathBuf.join, isAbsolute_fromText_relativeText unicode nonempty,
    Bool.false_or]
  by_cases empty : (path.start == .bare && path.components.isEmpty) = true
  · rw [if_pos empty]
    rw [Bool.and_eq_true, List.isEmpty_iff] at empty
    rw [components_fromText_relativeText unicode nonempty, empty.2,
      List.nil_append]
  · rw [if_neg empty, components_fromText_relativeText unicode nonempty]

def IsNormalName (name : Component) : Prop :=
  asBytes (nameText unicode name) = name.bytes

theorem PathBuf.pushAll_eq
    (path : PathBuf) (names : List Component) :
    path.pushAll names =
      { path with components := path.components ++ names } := by
  induction names using List.reverseRecOn with
  | nil => simp [PathBuf.pushAll]
  | append_singleton before name inductionHypothesis =>
      rw [PathBuf.pushAll_snoc, inductionHypothesis]
      simp [PathBuf.push]

/-- Normal names survive the way through the manifest. -/
theorem join_relativeText_of_normal (path : PathBuf) (nonempty : names ≠ [])
    (normal : ∀ name ∈ names, IsNormalName unicode name) :
    path.join (PathBuf.fromText (relativeText unicode names)) =
      path.pushAll names := by
  have reread : names.filterMap (rereadName unicode) = names := by
    rw [List.filterMap_congr (g := some) (fun name member => by
      rw [rereadName, normal name member, Component.ofBytes_bytes])]
    exact List.filterMap_some
  have components := components_join_relativeText unicode path nonempty
  rw [reread] at components
  have start : (path.join (PathBuf.fromText
      (relativeText unicode names))).start = path.start := by
    rw [PathBuf.join, isAbsolute_fromText_relativeText unicode nonempty,
      Bool.false_or]
    by_cases empty : (path.start == .bare && path.components.isEmpty) = true
    · rw [if_pos empty, PathBuf.fromText, PathBuf.ofOsStr,
        splitOn_relativeText unicode nonempty]
      rw [Bool.and_eq_true, beq_iff_eq] at empty
      rw [empty.1]
      cases names with
      | nil => exact absurd rfl nonempty
      | cons first rest =>
          have firstNormal := normal first List.mem_cons_self
          simp only [List.map_cons, PathBuf.startOf]
          split
          · rename_i absent
            simp only [List.cons.injEq] at absent
            exact absurd (firstNormal.symm.trans absent.1) first.nonempty
          · rename_i current
            simp only [List.cons.injEq] at current
            exact absurd (firstNormal.symm.trans current.1) first.notCurrent
          · rfl
    · rw [if_neg empty]
  rw [PathBuf.pushAll_eq]
  cases joined : path.join (PathBuf.fromText (relativeText unicode names)) with
  | mk joinedStart joinedComponents =>
      rw [joined] at components start
      simp only at components start
      rw [components, start]

theorem isNormalName_of_reread
    {name reread : Component} (isReread : rereadName unicode name = some reread) :
    IsNormalName unicode reread := by
  have bytes : reread.bytes = asBytes (nameText unicode name) := by
    unfold rereadName Component.ofBytes at isReread
    split at isReread
    · cases isReread
      rfl
    · cases isReread
  have decoded : fromUtf8 reread.bytes = some (nameText unicode name) := by
    rw [bytes, fromUtf8_asBytes]
  rw [IsNormalName, nameText, toStringLossy_of_fromUtf8 decoded, bytes,
    nameText, unicode.nfc_idempotent]

end Text

/-! ## The files of a selection -/

/-- The files under a root, by their names below it; a root that is no
directory is one file itself. -/
def selectedFiles (fs : FileSystem) (path : PathBuf) :
    List (List Component) :=
  match fs.lookup path with
  | some (.directory listing) =>
      (Tree.members (.directory listing)).filterMap fun member =>
        member.2.map fun _ => member.1
  | _ => [[]]

def hashedPaths (unicode : UnicodeNormalization) (fs : FileSystem)
    (selection : Selection) : List PathBuf :=
  (pendingLines unicode fs selection.roots selection.topLevelCount).filterMap
    PendingFileSetLine.filePath

/-- The path that the outbound side recovers for a file of a root whose text
gives back the root. -/
def recoveredPath (unicode : UnicodeNormalization) (fileSet : EntryFileSet)
    (root : TopLevelFileMember) (names : List Component) : PathBuf :=
  if fileSet.rootIsFile root.rootIndex then
    root.path
  else
    root.path.join (PathBuf.fromText (relativeText unicode names))

section Files

variable {unicode : UnicodeNormalization} {fs : FileSystem} {blake3 : Blake3}
variable {urlParse : UrlParse}

theorem selectedFiles_of_file (isFile : rootVisits fs root = none) :
    selectedFiles fs root.path = [[]] := by
  unfold rootVisits at isFile
  unfold selectedFiles
  cases shown : fs.lookup root.path with
  | none => rfl
  | some tree =>
      cases tree with
      | leaf leaf => rfl
      | directory listing => simp [shown] at isFile

theorem mem_selectedFiles_of_directory {listing : List (Component × FsTree)}
    (shown : fs.lookup root.path = some (.directory listing)) :
    names ∈ selectedFiles fs root.path ↔
      ∃ leaf, (names, some leaf) ∈ visits (.directory listing) := by
  simp only [selectedFiles, shown, List.mem_filterMap]
  constructor
  · rintro ⟨⟨path, leaf⟩, member, isFile⟩
    obtain ⟨payload, rfl, rfl⟩ := Option.map_eq_some_iff.mp isFile
    exact ⟨payload, (visits_perm listing).mem_iff.mpr member⟩
  · rintro ⟨leaf, visited⟩
    exact ⟨(names, some leaf), (visits_perm listing).mem_iff.mp visited, rfl⟩

theorem ne_nil_of_mem_selectedFiles {listing : List (Component × FsTree)}
    (shown : fs.lookup root.path = some (.directory listing))
    (member : names ∈ selectedFiles fs root.path) :
    names ≠ [] := by
  obtain ⟨leaf, visited⟩ := (mem_selectedFiles_of_directory shown).mp member
  exact Tree.path_ne_nil_of_leaf ((visits_perm listing).mem_iff.mp visited)

structure IsFileLine (unicode : UnicodeNormalization) (fs : FileSystem)
    (root : TopLevelFileMember) (names : List Component)
    (pending : PendingFileSetLine) : Prop where
  filePath : pending.filePath = some (root.path.pushAll names)
  relativePath : (rootVisits fs root).isSome = true →
    pending.memberLocation.relativePath = relativeText unicode names

theorem exists_names_of_rootLines {next : Int} {pending : PendingFileSetLine}
    (member : pending ∈ rootLines unicode fs root next)
    (isFile : pending.filePath ≠ none) :
    ∃ names ∈ selectedFiles fs root.path,
      IsFileLine unicode fs root names pending := by
  cases visited : rootVisits fs root with
  | none =>
      rw [rootLines, visited] at member
      rw [List.mem_singleton] at member
      subst member
      refine ⟨[], ?_, rfl, by simp [visited]⟩
      rw [selectedFiles_of_file visited]
      exact List.mem_singleton.mpr rfl
  | some found =>
      rw [rootLines, visited] at member
      obtain ⟨position, ⟨names, leaf⟩, isVisit, rfl⟩ := mem_numbered.mp member
      unfold rootVisits at visited
      split at visited
      · rename_i listing shown
        cases visited
        cases leaf with
        | none => exact absurd rfl isFile
        | some leaf =>
            refine ⟨names, ?_, rfl, fun _ => rfl⟩
            exact (mem_selectedFiles_of_directory shown).mpr
              ⟨leaf, List.mem_of_getElem? isVisit⟩
      · cases visited

variable (unicode) in
theorem exists_rootLines_of_names (next : Int)
    (member : names ∈ selectedFiles fs root.path) :
    ∃ pending ∈ rootLines unicode fs root next,
      IsFileLine unicode fs root names pending := by
  cases visited : rootVisits fs root with
  | none =>
      rw [selectedFiles_of_file visited, List.mem_singleton] at member
      subst member
      refine ⟨pendingFlatFile unicode root (rootExecutable fs root), ?_, rfl,
        by simp [visited]⟩
      rw [rootLines, visited]
      exact List.mem_singleton.mpr rfl
  | some found =>
      unfold rootVisits at visited
      split at visited
      · rename_i listing shown
        cases visited
        obtain ⟨leaf, isVisit⟩ :=
          (mem_selectedFiles_of_directory shown).mp member
        obtain ⟨position, atPosition⟩ := List.mem_iff_getElem?.mp isVisit
        refine ⟨visitLine unicode root (next + position) (names, some leaf),
          ?_, rfl, fun _ => rfl⟩
        rw [rootLines]
        simp only [rootVisits, shown]
        exact mem_numbered.mpr ⟨position, _, atPosition, rfl⟩
      · cases visited

theorem mem_hashedPaths
    {selection : Selection} {path : PathBuf} :
    path ∈ hashedPaths unicode fs selection ↔
      ∃ root ∈ selection.roots, ∃ names ∈ selectedFiles fs root.path,
        path = root.path.pushAll names := by
  rw [hashedPaths, List.mem_filterMap]
  constructor
  · rintro ⟨pending, member, isFile⟩
    obtain ⟨before, root, after, split, inLines⟩ :=
      mem_pendingLines.mp member
    obtain ⟨names, selected, fileLine⟩ := exists_names_of_rootLines inLines
      (by simp [isFile])
    refine ⟨root, by simp [split], names, selected, ?_⟩
    exact Option.some.inj (isFile.symm.trans fileLine.filePath)
  · rintro ⟨root, member, names, selected, rfl⟩
    obtain ⟨before, after, split⟩ := List.append_of_mem member
    obtain ⟨pending, inLines, fileLine⟩ := exists_rootLines_of_names
      unicode (selection.topLevelCount + spans fs before) selected
    exact ⟨pending, mem_pendingLines.mpr ⟨before, root, after, split, inLines⟩,
      fileLine.filePath⟩

end Files

end OpenClipboard
