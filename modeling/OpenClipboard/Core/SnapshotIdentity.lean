import Mathlib.Logic.Relation
import OpenClipboard.Core.FileSet
import OpenClipboard.Core.Snapshot
import OpenClipboard.Library.PartialMap

/-!
# What the identity of a snapshot does not see

Two copies of one content may differ in the order of their representations and
digests, in their labels, and in the paths of their files.  The identity sees
which representations are of a file class and the bytes of the others; a file
set contributes the same to it wherever its members are.
-/

namespace OpenClipboard

open PartialMap

namespace SystemClipboardSnapshot

/-- What may differ between two copies of one content. -/
inductive Relabels :
    SystemClipboardSnapshot → SystemClipboardSnapshot → Prop
  | representationOrder {snapshot : SystemClipboardSnapshot}
      (reps : List ObservedClipboardRepresentation)
      (permuted : reps.Perm snapshot.representations) :
      Relabels snapshot { snapshot with representations := reps }
  | digestOrder {snapshot : SystemClipboardSnapshot} (digests : List Digest)
      (permuted : digests.Perm snapshot.fileContentDigests) :
      Relabels snapshot { snapshot with fileContentDigests := digests }
  | timestamp {snapshot : SystemClipboardSnapshot} (tsMs : Int) :
      Relabels snapshot { snapshot with tsMs := tsMs }
  | representationId {snapshot : SystemClipboardSnapshot}
      (before after : List ObservedClipboardRepresentation)
      (rep : ObservedClipboardRepresentation) (id : String)
      (isThere : snapshot.representations = before ++ rep :: after) :
      Relabels snapshot { snapshot with
        representations := before ++ { rep with id := id } :: after }
  /-- Another format, of the same class where the class counts. -/
  | formatId {snapshot : SystemClipboardSnapshot}
      (before after : List ObservedClipboardRepresentation)
      (rep : ObservedClipboardRepresentation) (format : FormatId)
      (isThere : snapshot.representations = before ++ rep :: after)
      (sameClass : snapshot.hasFileComponent = true →
        isFileMimeOrFormat rep.mime format = rep.isFile) :
      Relabels snapshot { snapshot with
        representations := before ++ { rep with formatId := format } :: after }
  /-- Other bytes of a file list that a component stands for. -/
  | fileBytes {snapshot : SystemClipboardSnapshot}
      (before after : List ObservedClipboardRepresentation)
      (rep : ObservedClipboardRepresentation) (bytes : List UInt8)
      (cached : Option Digest)
      (isThere : snapshot.representations = before ++ rep :: after)
      (known : snapshot.hasFileComponent = true)
      (isFile : rep.isFile = true) :
      Relabels snapshot { snapshot with
        representations := before ++
          { rep with source := .inline bytes, cachedHash := cached } :: after }

def hashedContents (blake3 : Blake3)
    (readFile : PathBuf → Option (List UInt8))
    (snapshot : SystemClipboardSnapshot) : List (Option Digest) :=
  snapshot.hashedRepresentations.map fun rep =>
    rep.contentHash blake3 readFile

section Identity

variable {blake3 : Blake3} {readFile here there : PathBuf → Option (List UInt8)}
variable {snapshot copy : SystemClipboardSnapshot}

theorem snapshotHash_eq_contents :
    snapshot.snapshotHash blake3 readFile =
      ((snapshot.hashedContents blake3 readFile).mapM id).map fun hashes =>
        ContentHash.snapshotHash blake3
          (hashes ++ (snapshot.fileComponent blake3).toList) := by
  unfold snapshotHash hashedContents
  rw [mapM_id_map]

theorem snapshotHash_eq_of_perm
    (contents : (copy.hashedContents blake3 there).Perm
      (snapshot.hashedContents blake3 here))
    (component : copy.fileComponent blake3 = snapshot.fileComponent blake3) :
    copy.snapshotHash blake3 there = snapshot.snapshotHash blake3 here := by
  rw [snapshotHash_eq_contents, snapshotHash_eq_contents, component]
  cases hashed : (snapshot.hashedContents blake3 here).mapM id with
  | some values =>
      obtain ⟨others, copied, reordered⟩ := mapM_id_perm contents hashed
      rw [copied, Option.map_some, Option.map_some]
      apply congrArg some
      exact ContentHash.aggregate_perm blake3 (reordered.append_right _)
  | none =>
      cases copied : (copy.hashedContents blake3 there).mapM id with
      | some others =>
          obtain ⟨values, defined, _⟩ := mapM_id_perm contents.symm copied
          rw [defined] at hashed
          cases hashed
      | none => rfl

theorem hashedContents_middle
    {before after : List ObservedClipboardRepresentation}
    {rep other : ObservedClipboardRepresentation}
    (isThere : snapshot.representations = before ++ rep :: after)
    (sameClass : snapshot.hasFileComponent = true → other.isFile = rep.isFile)
    (sameContent :
      ¬(snapshot.hasFileComponent = true ∧ rep.isFile = true) →
        other.contentHash blake3 readFile = rep.contentHash blake3 readFile) :
    hashedContents blake3 readFile
        { snapshot with representations := before ++ other :: after } =
      snapshot.hashedContents blake3 readFile := by
  have sameHas : hasFileComponent
      { snapshot with representations := before ++ other :: after } =
        snapshot.hasFileComponent := rfl
  unfold hashedContents hashedRepresentations
  rw [sameHas, isThere, List.filter_append, List.filter_append,
    List.filter_cons, List.filter_cons, List.map_append, List.map_append]
  cases known : snapshot.hasFileComponent with
  | false =>
      simp only [Bool.false_and, Bool.not_false, if_true, List.map_cons]
      rw [sameContent (by simp [known])]
  | true =>
      rw [sameClass known]
      cases isFile : rep.isFile with
      | false =>
          simp only [Bool.and_false, Bool.not_false, if_true, List.map_cons]
          rw [sameContent (by simp [isFile])]
      | true => rfl

theorem Relabels.snapshotHash_eq (relabels : snapshot.Relabels copy) :
    copy.snapshotHash blake3 readFile =
      snapshot.snapshotHash blake3 readFile := by
  cases relabels with
  | representationOrder reps permuted =>
      apply snapshotHash_eq_of_perm
      · unfold hashedContents hashedRepresentations
        exact (permuted.filter _).map _
      · rfl
  | digestOrder digests permuted =>
      have sameEmpty := permuted.isEmpty_eq
      have sameHas : hasFileComponent
          { snapshot with fileContentDigests := digests } =
            snapshot.hasFileComponent := by
        unfold hasFileComponent
        rw [sameEmpty]
      have sameWrapper : ContentHash.fileContentWrapper blake3 digests =
          ContentHash.fileContentWrapper blake3 snapshot.fileContentDigests :=
        ContentHash.aggregate_perm blake3 permuted
      apply snapshotHash_eq_of_perm
      · unfold hashedContents hashedRepresentations
        rw [sameHas]
      · unfold fileComponent
        rw [sameEmpty, sameWrapper]
  | timestamp tsMs => rfl
  | representationId before after rep id isThere =>
      apply snapshotHash_eq_of_perm
      · apply List.Perm.of_eq
        apply hashedContents_middle isThere
        · exact fun _ => rfl
        · exact fun _ => rfl
      · rfl
  | formatId before after rep format isThere sameClass =>
      apply snapshotHash_eq_of_perm
      · apply List.Perm.of_eq
        apply hashedContents_middle isThere
        · exact sameClass
        · exact fun _ => rfl
      · rfl
  | fileBytes before after rep bytes cached isThere known isFile =>
      apply snapshotHash_eq_of_perm
      · apply List.Perm.of_eq
        apply hashedContents_middle isThere
        · exact fun _ => rfl
        · exact fun free => (free ⟨known, isFile⟩).elim
      · rfl

theorem snapshotHash_relabelled
    (relabelled : Relation.ReflTransGen Relabels snapshot copy) :
    copy.snapshotHash blake3 readFile =
      snapshot.snapshotHash blake3 readFile := by
  induction relabelled with
  | refl => rfl
  | tail _ relabels inductionHypothesis =>
      rw [relabels.snapshotHash_eq, inductionHypothesis]

theorem snapshotHash_elsewhere
    (sameContents : ∀ rep ∈ snapshot.hashedRepresentations,
      rep.contentHash blake3 there = rep.contentHash blake3 here) :
    snapshot.snapshotHash blake3 there = snapshot.snapshotHash blake3 here := by
  apply snapshotHash_eq_of_perm
  · apply List.Perm.of_eq
    exact List.map_congr_left sameContents
  · rfl

end Identity

end SystemClipboardSnapshot

/-! ## File sets -/

/-- What a line says of its member apart from where it was found. -/
structure MemberContent where
  location : Option (String × String × FileSetMemberKind)
  digest : Option Digest
  excluded : Bool
  deriving DecidableEq, Repr

/-- The index of the root, the text of the line, its number, the blob and the
size are left out. -/
def EntryFileSetLine.content (line : EntryFileSetLine) : MemberContent where
  location := line.memberLocation.map fun location =>
    (location.rootName, location.relativePath, location.kind)
  digest := line.kind.contentHash?
  excluded := line.kind.isExcluded

namespace EntryFileSet

/-- Two manifests of the same members, in any order. -/
structure SameFiles (captured received : EntryFileSet) : Prop where
  members : (received.lines.map EntryFileSetLine.content).Perm
    (captured.lines.map EntryFileSetLine.content)
  structured : received.hasDirectoryStructure = captured.hasDirectoryStructure

def contentLeaf (blake3 : Blake3) (content : MemberContent) :
    Option (Option Digest) :=
  if content.excluded then
    none
  else
    match content.location, content.digest with
    | none, none => some none
    | none, some _ => none
    | some (rootName, relativePath, kind), some digest =>
        if kind = .emptyDirectory then
          none
        else
          some (some (ContentHash.fileSetMemberV1 blake3 rootName relativePath
            kind.asTag (some digest)))
    | some (rootName, relativePath, kind), none =>
        if kind = .emptyDirectory then
          some (some (ContentHash.fileSetMemberV1 blake3 rootName relativePath
            kind.asTag none))
        else
          none

theorem componentLeaf_eq (blake3 : Blake3) (line : EntryFileSetLine) :
    componentLeaf blake3 line = contentLeaf blake3 line.content := by
  unfold componentLeaf contentLeaf EntryFileSetLine.content
  cases line.memberLocation with
  | none => cases line.kind <;> rfl
  | some location =>
      cases line.kind with
      | file contentHash blobId sizeBytes =>
          cases kind : location.kind <;>
            simp [kind, EntryFileSetLineKind.isExcluded,
              EntryFileSetLineKind.contentHash?]
      | nonFile =>
          cases kind : location.kind <;>
            simp [kind, EntryFileSetLineKind.isExcluded,
              EntryFileSetLineKind.contentHash?]
      | excluded reason =>
          simp [EntryFileSetLineKind.isExcluded]

section SameFiles

variable {blake3 : Blake3} {captured received : EntryFileSet}

theorem hasExcluded_eq_any (fileSet : EntryFileSet) :
    fileSet.hasExcluded =
      (fileSet.lines.map EntryFileSetLine.content).any
        MemberContent.excluded := by
  unfold hasExcluded
  rw [List.any_map]
  rfl

theorem SameFiles.hasExcluded_eq (same : captured.SameFiles received) :
    received.hasExcluded = captured.hasExcluded := by
  rw [hasExcluded_eq_any, hasExcluded_eq_any]
  exact same.members.any_eq

theorem SameFiles.contentDigestContribution_eq
    (same : captured.SameFiles received) :
    received.contentDigestContribution = captured.contentDigestContribution := by
  have digests : ∀ fileSet : EntryFileSet,
      fileSet.lines.filterMap (fun line => line.kind.contentHash?) =
        (fileSet.lines.map EntryFileSetLine.content).filterMap
          MemberContent.digest := by
    intro fileSet
    rw [List.filterMap_map]
    rfl
  have sameDigests := sortDigests_eq_iff.mpr
    (same.members.filterMap MemberContent.digest)
  unfold contentDigestContribution
  rw [same.hasExcluded_eq, same.structured, digests, digests, sameDigests]

theorem componentLeaves_eq (fileSet : EntryFileSet) :
    fileSet.lines.mapM (componentLeaf blake3) =
      ((fileSet.lines.map EntryFileSetLine.content).map
        (contentLeaf blake3)).mapM id := by
  rw [List.map_map, mapM_id_map]
  congr 1
  funext line
  exact componentLeaf_eq blake3 line

theorem SameFiles.fileSetV1Component_eq (same : captured.SameFiles received) :
    received.fileSetV1Component blake3 = captured.fileSetV1Component blake3 := by
  have permuted := same.members.map (contentLeaf blake3)
  unfold fileSetV1Component
  rw [same.hasExcluded_eq, same.structured, componentLeaves_eq,
    componentLeaves_eq]
  generalize (received.lines.map EntryFileSetLine.content).map
    (contentLeaf blake3) = receivedLeaves at permuted ⊢
  generalize (captured.lines.map EntryFileSetLine.content).map
    (contentLeaf blake3) = capturedLeaves at permuted ⊢
  split
  · rfl
  · cases found : capturedLeaves.mapM id with
    | some leaves =>
        obtain ⟨others, copied, reordered⟩ :=
          mapM_id_perm permuted found
        have sameLeaves := reordered.filterMap id
        have sameEmpty : (others.filterMap id).isEmpty =
            (leaves.filterMap id).isEmpty := by
          exact sameLeaves.isEmpty_eq
        have sameWrapper : ContentHash.fileSetV1Wrapper blake3
              (others.filterMap id) =
            ContentHash.fileSetV1Wrapper blake3 (leaves.filterMap id) :=
          ContentHash.aggregate_perm blake3 sameLeaves
        simp only [copied]
        rw [sameEmpty, sameWrapper]
    | none =>
        cases copied : receivedLeaves.mapM id with
        | some others =>
            obtain ⟨leaves, defined, _⟩ :=
              mapM_id_perm permuted.symm copied
            rw [defined] at found
            cases found
        | none => rfl

end SameFiles

end EntryFileSet

/-! ## Across devices -/

namespace SystemClipboardSnapshot.Sample

/-- The first 32 bytes. -/
def blake3 : Blake3 := fun bytes =>
  ⟨(bytes ++ List.replicate 32 0).take 32, length_filled bytes⟩

def noFiles (_ : PathBuf) : Option (List UInt8) := none

def first : Digest := ⟨List.replicate 32 1, List.length_replicate⟩
def second : Digest := ⟨List.replicate 32 2, List.length_replicate⟩

def fileList : ObservedClipboardRepresentation :=
  .new "here" "files" none (Text.asBytes "/home/a")

def text : ObservedClipboardRepresentation :=
  .new "text" "text" (some "text/plain") (Text.asBytes "a")

def captured : SystemClipboardSnapshot where
  tsMs := 1
  representations := [fileList, text]
  fileContentDigests := [first, second]

/-- The same two files on another device. -/
def received : SystemClipboardSnapshot where
  tsMs := 2
  representations :=
    [text, { fileList with source := .inline (Text.asBytes "/cache/a") }]
  fileContentDigests := [second, first]

def directoryLine (lineIndex : Int) (name : String) (digest : Digest) :
    EntryFileSetLine where
  lineIndex := lineIndex
  originalText := ""
  memberLocation := some ⟨lineIndex, "root", name, .file⟩
  kind := .file digest none none

def sentSet : EntryFileSet :=
  ⟨[directoryLine 2 "a" first, directoryLine 3 "b/c" second]⟩

def receivedSet : EntryFileSet :=
  ⟨[directoryLine 2 "b/c" second, directoryLine 3 "a" first]⟩

end SystemClipboardSnapshot.Sample

end OpenClipboard
