import OpenClipboard.Capture.Coverage
import OpenClipboard.Capture.PlatformReader
import OpenClipboard.Outbound.PathFidelity

/-!
# Which denoted files reach the manifest and the wire

A snapshot denotes files by the paths of its `LocalFile` representations and
by the `file` lines of its file-class representations.  The manifest builder
chooses one source, so a file is accounted for exactly if the chosen source
denotes it.
-/

namespace OpenClipboard

open FileTree Text

/-! ## Denoted and chosen paths -/

def fileLinePaths (urlParse : UrlParse)
    (rep : ObservedClipboardRepresentation) : List PathBuf :=
  if rep.isFile then
    match rep.inlineBytes.bind fromUtf8 with
    | some text => textFilePaths urlParse text
    | none => []
  else
    []

def denotedPaths (urlParse : UrlParse) (snapshot : SystemClipboardSnapshot) :
    List PathBuf :=
  (localFiles snapshot).map Prod.fst ++
    snapshot.representations.flatMap (fileLinePaths urlParse)

/-- The paths of the source that the manifest builder chooses. -/
def chosenPaths (urlParse : UrlParse) (snapshot : SystemClipboardSnapshot) :
    List PathBuf :=
  if (localFiles snapshot).isEmpty then
    match uriListText snapshot with
    | some text => textFilePaths urlParse text
    | none => []
  else
    (localFiles snapshot).map Prod.fst

def EveryPathChosen (urlParse : UrlParse)
    (snapshot : SystemClipboardSnapshot) : Prop :=
  ∀ path ∈ denotedPaths urlParse snapshot,
    path ∈ chosenPaths urlParse snapshot

/-- The line belongs to a root that was selected for the path. -/
def AccountsFor (selection : Selection) (line : EntryFileSetLine)
    (path : PathBuf) : Prop :=
  ∃ root ∈ selection.roots, root.path = path ∧
    line.memberLocation.map FileSetMemberLocation.rootIndex =
      some root.rootIndex

variable {selection : Selection} {path : PathBuf}

section NoFileLost

variable {unicode : UnicodeNormalization} {fs : FileSystem} {blake3 : Blake3}
variable {urlParse : UrlParse} {caps : FileSetCaps}
variable {snapshot sent : SystemClipboardSnapshot}

theorem uriListMembers_paths
    (rawLines : List String) (lineIndex rootIndex : Int) :
    (uriListMembers unicode urlParse rawLines lineIndex rootIndex).map
        TopLevelFileMember.path =
      rawLines.filterMap fun line =>
        match parseUriListLine urlParse line with
        | .file path => some path
        | .nonFile => none := by
  induction rawLines generalizing lineIndex rootIndex with
  | nil => rfl
  | cons rawLine rest inductionHypothesis =>
      unfold uriListMembers
      cases parsed : parseUriListLine urlParse rawLine with
      | file path =>
          rw [List.filterMap_cons_some (by rw [parsed])]
          simp only [List.map_cons, inductionHypothesis]
      | nonFile =>
          rw [List.filterMap_cons_none (by rw [parsed])]
          exact inductionHypothesis _ _

theorem localFileMembers_paths (snapshot : SystemClipboardSnapshot) :
    (localFileMembers unicode snapshot).map TopLevelFileMember.path =
      (localFiles snapshot).map Prod.fst := by
  apply List.ext_getElem?
  intro position
  rw [localFileMembers, List.getElem?_map, List.getElem?_map,
    List.getElem?_mapIdx]
  cases (localFiles snapshot)[position]? with
  | none => rfl
  | some file => rfl

theorem selection_paths
    (selected : selectTopLevel unicode urlParse snapshot = some selection) :
    selection.roots.map TopLevelFileMember.path =
      chosenPaths urlParse snapshot := by
  have sameEmpty : (localFileMembers unicode snapshot).isEmpty =
      (localFiles snapshot).isEmpty := by
    cases found : localFiles snapshot with
    | nil => simp [localFileMembers, found]
    | cons head tail => simp [localFileMembers, found]
  unfold selectTopLevel at selected
  simp only [sameEmpty] at selected
  unfold chosenPaths
  split at selected
  · rename_i noLocalFile
    rw [if_pos noLocalFile]
    obtain ⟨text, decoded, rfl⟩ := Option.map_eq_some_iff.mp selected
    rw [decoded]
    exact uriListMembers_paths _ _ _
  · rename_i someLocalFile
    rw [if_neg someLocalFile]
    cases selected
    exact localFileMembers_paths snapshot

theorem selected_of_denoted (denoted : path ∈ denotedPaths urlParse snapshot) :
    ∃ selection, selectTopLevel unicode urlParse snapshot =
      some selection := by
  unfold selectTopLevel
  simp only
  split
  · rename_i noMember
    have noLocalFile : localFiles snapshot = [] := by
      cases found : localFiles snapshot with
      | nil => rfl
      | cons head tail => simp [localFileMembers, found] at noMember
    rw [denotedPaths, noLocalFile, List.map_nil, List.nil_append] at denoted
    obtain ⟨rep, member, inLines⟩ := List.mem_flatMap.mp denoted
    unfold fileLinePaths at inLines
    split at inLines
    · rename_i isFile
      cases decoded : rep.inlineBytes.bind fromUtf8 with
      | none =>
          rw [decoded] at inLines
          cases inLines
      | some text =>
          have chosen : (uriListText snapshot).isSome = true := by
            rw [uriListText, List.findSome?_isSome_iff]
            refine ⟨rep, member, ?_⟩
            rw [if_pos (show isFileMimeOrFormat rep.mime rep.formatId = true
              from isFile), decoded]
            rfl
          obtain ⟨first, found⟩ := Option.isSome_iff_exists.mp chosen
          rw [found]
          exact ⟨_, rfl⟩
    · cases inLines
  · exact ⟨_, rfl⟩

theorem accountsFor_of_chosen {fileSet : EntryFileSet}
    (selected : selectTopLevel unicode urlParse snapshot = some selection)
    (built : buildEntryFileSet unicode fs blake3 urlParse caps snapshot =
      some fileSet) (chosen : path ∈ chosenPaths urlParse snapshot) :
    ∃ line ∈ fileSet.lines, AccountsFor selection line path := by
  rw [← selection_paths selected] at chosen
  obtain ⟨root, member, rfl⟩ := List.mem_map.mp chosen
  rw [buildEntryFileSet, selected, Option.map_some,
    Option.some.injEq] at built
  subst built
  obtain ⟨line, inLines, index⟩ := buildFileMemberLines_covers
    selection.roots selection.otherLines selection.topLevelCount root member
  exact ⟨line, inLines, root, member, rfl, index⟩

theorem chosen_of_accountsFor {line : EntryFileSetLine}
    (selected : selectTopLevel unicode urlParse snapshot = some selection)
    (accounted : AccountsFor selection line path) :
    path ∈ chosenPaths urlParse snapshot := by
  obtain ⟨root, member, rfl, _⟩ := accounted
  rw [← selection_paths selected]
  exact List.mem_map_of_mem member

/-! ## The claim in two parts -/

/-- The manifest has a line for every denoted path. -/
def ManifestCovers (unicode : UnicodeNormalization) (fs : FileSystem)
    (blake3 : Blake3) (urlParse : UrlParse) (caps : FileSetCaps)
    (snapshot : SystemClipboardSnapshot) : Prop :=
  ∀ path ∈ denotedPaths urlParse snapshot,
    ∃ selection fileSet,
      selectTopLevel unicode urlParse snapshot = some selection ∧
        buildEntryFileSet unicode fs blake3 urlParse caps snapshot =
          some fileSet ∧
        ∃ line ∈ fileSet.lines, AccountsFor selection line path

/-- If no line is excluded, every file at or below a denoted path is
published. -/
def EveryFilePublished (unicode : UnicodeNormalization) (fs : FileSystem)
    (blake3 : Blake3) (urlParse : UrlParse) (caps : FileSetCaps)
    (snapshot sent : SystemClipboardSnapshot) : Prop :=
  ∀ fileSet,
    buildEntryFileSet unicode fs blake3 urlParse caps snapshot =
        some fileSet →
      fileSet.hasExcluded = false →
        ∀ path ∈ denotedPaths urlParse snapshot,
          ∀ names ∈ selectedFiles fs path,
            path.pushAll names ∈
              (resolveOutboundFileSet urlParse (.ok (some fileSet))
                sent).paths

theorem manifestCovers_iff :
    ManifestCovers unicode fs blake3 urlParse caps snapshot ↔
      EveryPathChosen urlParse snapshot := by
  constructor
  · intro covers path denoted
    obtain ⟨selection, fileSet, selected, _, line, _, accounted⟩ :=
      covers path denoted
    exact chosen_of_accountsFor selected accounted
  · intro chosen path denoted
    obtain ⟨selection, selected⟩ : ∃ selection,
        selectTopLevel unicode urlParse snapshot = some selection :=
      selected_of_denoted denoted
    have built : buildEntryFileSet unicode fs blake3 urlParse caps snapshot =
        some ⟨buildFileMemberLines unicode fs blake3 selection.roots
          selection.otherLines selection.topLevelCount caps⟩ := by
      rw [buildEntryFileSet, selected]
      rfl
    exact ⟨selection, _, selected, built,
      accountsFor_of_chosen selected built (chosen path denoted)⟩

theorem textFilePaths_subset_denoted {text : String}
    (chosen : uriListText snapshot = some text)
    (member : path ∈ textFilePaths urlParse text) :
    path ∈ denotedPaths urlParse snapshot := by
  obtain ⟨rep, inReps, found⟩ := List.exists_of_findSome?_eq_some chosen
  split at found
  · rename_i isFile
    apply List.mem_append_right
    refine List.mem_flatMap.mpr ⟨rep, inReps, ?_⟩
    rw [fileLinePaths, if_pos (show rep.isFile = true from isFile), found]
    exact member
  · cases found

theorem denoted_of_chosen (chosen : path ∈ chosenPaths urlParse snapshot) :
    path ∈ denotedPaths urlParse snapshot := by
  unfold chosenPaths at chosen
  split at chosen
  · split at chosen
    · rename_i text decoded
      exact textFilePaths_subset_denoted decoded chosen
    · cases chosen
  · exact List.mem_append_left _ chosen

/-- Under the condition nothing is lost.  The first part of the condition is
necessary; so is the second one where the roots have different paths, do not
lie inside each other, and their texts are recovered. -/
theorem noFileLost :
    (EveryPathChosen urlParse snapshot →
        (∀ selection fileSet,
          selectTopLevel unicode urlParse snapshot = some selection →
            buildEntryFileSet unicode fs blake3 urlParse caps snapshot =
              some fileSet → fileSet.hasExcluded = false →
            PathsRecovered unicode fs urlParse sent selection) →
        ManifestCovers unicode fs blake3 urlParse caps snapshot ∧
          EveryFilePublished unicode fs blake3 urlParse caps snapshot sent) ∧
      (ManifestCovers unicode fs blake3 urlParse caps snapshot →
        EveryPathChosen urlParse snapshot) ∧
      (EveryFilePublished unicode fs blake3 urlParse caps snapshot sent →
        ∀ selection fileSet,
          selectTopLevel unicode urlParse snapshot = some selection →
            buildEntryFileSet unicode fs blake3 urlParse caps snapshot =
              some fileSet → fileSet.hasExcluded = false →
            (selection.roots.map fun root => root.path.components).Nodup →
            RootsApart selection.roots →
            RootTextsRecovered urlParse fs selection.roots →
            PathsRecovered unicode fs urlParse sent selection) := by
  refine ⟨?_, manifestCovers_iff.mp, ?_⟩
  · intro chosen recovered
    refine ⟨manifestCovers_iff.mpr chosen, ?_⟩
    intro fileSet built complete path denoted names selected
    obtain ⟨selection, isSelected⟩ : ∃ selection,
        selectTopLevel unicode urlParse snapshot = some selection :=
      selected_of_denoted denoted
    have manifest := buildEntryFileSet_complete isSelected built complete
    have isChosen := chosen path denoted
    rw [← selection_paths isSelected] at isChosen
    obtain ⟨root, member, rfl⟩ := List.mem_map.mp isChosen
    exact (manifest.mem_paths_iff_hashed
      (recovered selection fileSet isSelected built complete) _).mpr
        (mem_hashedPaths.mpr ⟨root, member, names, selected, rfl⟩)
  · intro everyFile selection fileSet isSelected built complete distinct apart
      texts
    have manifest := buildEntryFileSet_complete isSelected built complete
    have published : ∀ root ∈ selection.roots,
        ∀ names ∈ selectedFiles fs root.path,
          root.path.pushAll names ∈
            (resolveOutboundFileSet urlParse (.ok (some fileSet))
              sent).paths := by
      intro root member names selected
      have chosen : root.path ∈ chosenPaths urlParse snapshot := by
        rw [← selection_paths isSelected]
        exact List.mem_map_of_mem member
      exact everyFile fileSet built complete root.path
        (denoted_of_chosen chosen) names selected
    apply manifest.pathsRecovered_of_published apart texts published
    intro root member
    rcases manifest.root_shown member with
      ⟨listing, shown⟩ | ⟨executable, content, shown⟩
    · -- the files of a directory taken for a file come from no root
      have notRegular : fs.isRegularFile root.path = false := by
        simp [FileSystem.isRegularFile, shown]
      rw [notRegular]
      constructor
      · intro taken
        obtain ⟨names, selected⟩ :=
          manifest.selectedFiles_ne_nil_of_misclassified member shown taken
        obtain ⟨other, otherMember, otherNames, otherSelected, same⟩ :=
          manifest.exists_recoveredPath texts
            (published root member names selected)
        obtain ⟨notTaken, sameComponents, _⟩ :=
          manifest.same_root_of_recovered apart member otherMember
            otherSelected (ne_nil_of_mem_selectedFiles shown selected) same
        have sameRoot := List.inj_on_of_nodup_map distinct member otherMember
          sameComponents
        rw [sameRoot, notTaken] at taken
        cases taken
      · intro impossible
        cases impossible
    · have isFile : rootVisits fs root = none := by simp [rootVisits, shown]
      simp [manifest.rootIsFile_of_file member isFile,
        FileSystem.isRegularFile, shown]

end NoFileLost

theorem noFileLost_orderedAlbums :
    ManifestCovers plainUnicode twoAlbums positionalDigest plainUrlParse
        ⟨0, 0⟩ orderedAlbums ∧
      EveryFilePublished plainUnicode twoAlbums positionalDigest
        plainUrlParse ⟨0, 0⟩ orderedAlbums orderedAlbums := by
  apply noFileLost.1
  · unfold EveryPathChosen
    decide +kernel
  · intro selection fileSet selected _ _
    rw [orderedAlbums_captured.1, Option.some.injEq] at selected
    exact selected ▸ orderedAlbums_recovered

def photoAndNote : FileSystem :=
  .ofTree (.directory
    [(plainName "p.png", plainFile "x"), (plainName "n.txt", plainFile "y")])
    (by decide +kernel)

/-- What the platform reader makes of copying both files. -/
def photoAndNoteCopied : SystemClipboardSnapshot where
  tsMs := 0
  representations := readFileRepresentations photoAndNote.fileSize
    (fun path => some ("file://" ++ path.display))
    [PathBuf.fromText "/p.png", PathBuf.fromText "/n.txt"]

/-- The reference to the photo hides the note from the manifest, and from what
is published. -/
theorem noteBesidePhoto_lost :
    PathBuf.fromText "/n.txt" ∈
        denotedPaths plainUrlParse photoAndNoteCopied ∧
      ¬ ManifestCovers plainUnicode photoAndNote positionalDigest
        plainUrlParse ⟨0, 0⟩ photoAndNoteCopied ∧
      ¬ EveryFilePublished plainUnicode photoAndNote positionalDigest
        plainUrlParse ⟨0, 0⟩ photoAndNoteCopied photoAndNoteCopied := by
  have denoted : PathBuf.fromText "/n.txt" ∈
      denotedPaths plainUrlParse photoAndNoteCopied := by
    decide +kernel
  refine ⟨denoted, ?_, ?_⟩
  · intro covers
    have chosen := manifestCovers_iff.mp covers _ denoted
    revert chosen
    decide +kernel
  · intro everyFile
    have built : buildEntryFileSet plainUnicode photoAndNote positionalDigest
        plainUrlParse ⟨0, 0⟩ photoAndNoteCopied =
          some ((buildEntryFileSet plainUnicode photoAndNote positionalDigest
            plainUrlParse ⟨0, 0⟩ photoAndNoteCopied).getD ⟨[]⟩) := by
      decide +kernel
    have published := everyFile _ built (by decide +kernel) _ denoted []
      (by decide +kernel)
    revert published
    decide +kernel

end OpenClipboard
