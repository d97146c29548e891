import OpenClipboard.Outbound.Resolve

/-!
# The file-set manifest on the wire

A directory set travels with a manifest of its members.  Each file member
points to its blob by index; sender and receiver compute the structured
identity from the manifest and the digests of the blobs.
-/

namespace OpenClipboard

open Text

structure InboundFileSetMember where
  rootIndex : Nat
  rootName : String
  rootIsFile : Bool
  relativePath : String
  kind : FileSetMemberKind
  blobRefIndex : Option Nat
  deriving DecidableEq, Repr

structure InboundFileSetManifest where
  members : List InboundFileSetMember
  deriving DecidableEq, Repr

/-- The manifest line of a member that was received, or is about to be. -/
def memberLine (digestOf : Nat → Option Digest) (lineIndex : Int)
    (member : InboundFileSetMember) : Except String EntryFileSetLine :=
  let line (kind : EntryFileSetLineKind) : EntryFileSetLine := {
    lineIndex := lineIndex
    originalText := ""
    memberLocation := some {
      rootIndex := member.rootIndex
      rootName := member.rootName
      relativePath := member.relativePath
      kind := member.kind }
    kind := kind }
  let file :=
    match member.blobRefIndex with
    | none => .error "file member is missing its blob reference"
    | some index =>
        match digestOf index with
        | none => .error "file member is missing its fetched content digest"
        | some digest => .ok (line (.file digest none none))
  match member.kind with
  | .file => file
  | .executable => file
  | .emptyDirectory => .ok (line .nonFile)

/-- The lines of the members, numbered from `next` on. -/
def memberLines (digestOf : Nat → Option Digest) :
    Int → List InboundFileSetMember → Except String (List EntryFileSetLine)
  | _, [] => .ok []
  | next, member :: rest =>
      match memberLine digestOf next member with
      | .error err => .error err
      | .ok line =>
          match memberLines digestOf (next + 1) rest with
          | .error err => .error err
          | .ok lines => .ok (line :: lines)

/-- The structured identity of a manifest with the digests of its blobs.  Every
line index reaches the row count, so every root counts as a directory. -/
def computeFileSetComponent (blake3 : Blake3)
    (manifest : InboundFileSetManifest) (digestOf : Nat → Option Digest) :
    Except String Digest :=
  match memberLines digestOf manifest.members.length manifest.members with
  | .error err => .error err
  | .ok lines =>
      match (EntryFileSet.mk lines).fileSetV1Component blake3 with
      | none => .error "directory manifest cannot produce a file-set identity"
      | some component => .ok component

/-! ## Sets that have an identity -/

def InboundFileSetMember.HasDigest (digestOf : Nat → Option Digest)
    (member : InboundFileSetMember) : Prop :=
  member.kind = .emptyDirectory ∨
    ∃ index digest, member.blobRefIndex = some index ∧
      digestOf index = some digest

/-- A line that adds a leaf, and whose index reaches `floor`. -/
structure EntryFileSetLine.IsMemberLine (blake3 : Blake3) (floor : Int)
    (line : EntryFileSetLine) : Prop where
  reaches : floor ≤ line.lineIndex
  located : line.memberLocation.isSome = true
  included : line.kind.isExcluded = false
  leaf : ∃ leaf, EntryFileSet.componentLeaf blake3 line = some (some leaf)

theorem exists_memberLine (blake3 : Blake3) {digestOf : Nat → Option Digest}
    {member : InboundFileSetMember} (hasDigest : member.HasDigest digestOf)
    (lineIndex : Int) :
    ∃ line, memberLine digestOf lineIndex member = .ok line ∧
      line.IsMemberLine blake3 lineIndex := by
  unfold memberLine
  rcases hasDigest with isEmpty | ⟨index, digest, isIndex, isDigest⟩
  · simp only [isEmpty]
    exact ⟨_, rfl, le_refl _, rfl, rfl, _, rfl⟩
  · simp only [isIndex, isDigest]
    cases isKind : member.kind with
    | file => exact ⟨_, rfl, le_refl _, rfl, rfl, _, rfl⟩
    | executable => exact ⟨_, rfl, le_refl _, rfl, rfl, _, rfl⟩
    | emptyDirectory => exact ⟨_, rfl, le_refl _, rfl, rfl, _, rfl⟩

theorem exists_memberLines (blake3 : Blake3) {digestOf : Nat → Option Digest}
    {members : List InboundFileSetMember}
    (haveDigests : ∀ member ∈ members, member.HasDigest digestOf)
    (next : Int) :
    ∃ lines, memberLines digestOf next members = .ok lines ∧
      lines.length = members.length ∧
        ∀ line ∈ lines, line.IsMemberLine blake3 next := by
  induction members generalizing next with
  | nil => exact ⟨[], rfl, rfl, by simp⟩
  | cons member rest inductionHypothesis =>
      rcases exists_memberLine blake3
          (haveDigests member List.mem_cons_self) next with
        ⟨line, isLine, isMember⟩
      rcases inductionHypothesis (fun other inRest =>
          haveDigests other (List.mem_cons_of_mem _ inRest)) (next + 1) with
        ⟨lines, areLines, sameLength, areMembers⟩
      refine ⟨line :: lines, ?_, ?_, ?_⟩
      · rw [memberLines, isLine]
        dsimp only
        rw [areLines]
      · rw [List.length_cons, List.length_cons, sameLength]
      · intro other inLines
        rcases List.mem_cons.mp inLines with isFirst | isLater
        · rw [isFirst]
          exact isMember
        · have later := areMembers other isLater
          have reaches := later.reaches
          exact { later with reaches := by omega }

/-- A set of files with known digests, and of empty directories, has an
identity, unless it has no members. -/
theorem exists_fileSetComponent (blake3 : Blake3)
    {manifest : InboundFileSetManifest} {digestOf : Nat → Option Digest}
    (nonempty : manifest.members ≠ [])
    (haveDigests : ∀ member ∈ manifest.members, member.HasDigest digestOf) :
    ∃ component,
      computeFileSetComponent blake3 manifest digestOf = .ok component := by
  rcases exists_memberLines blake3 haveDigests
      manifest.members.length with
    ⟨lines, areLines, sameLength, areMembers⟩
  have someLine : lines ≠ [] := by
    intro isEmpty
    rw [isEmpty] at sameLength
    exact nonempty (List.length_eq_zero_iff.mp sameLength.symm)
  rcases List.exists_mem_of_ne_nil _ someLine with ⟨line, inLines⟩
  have isMember := areMembers line inLines
  have isStructured :
      (EntryFileSet.mk lines).hasDirectoryStructure = true := by
    apply List.any_eq_true.mpr
    refine ⟨line, inLines, ?_⟩
    rcases Option.isSome_iff_exists.mp isMember.located with
      ⟨location, isLocation⟩
    apply EntryFileSetLine.indicatesDirectoryRoot_iff.mpr
    refine ⟨location, isLocation, Or.inr (Or.inr ?_)⟩
    have reaches := isMember.reaches
    rw [← sameLength] at reaches
    exact reaches
  have isComplete : (EntryFileSet.mk lines).hasExcluded = false := by
    apply List.any_eq_false.mpr
    intro other member
    rw [(areMembers other member).included]
    decide
  have accepted : ∀ other ∈ lines,
      (EntryFileSet.componentLeaf blake3 other).isSome = true := by
    intro other member
    rcases (areMembers other member).leaf with ⟨leaf, isLeaf⟩
    rw [isLeaf]
    rfl
  rcases PartialMap.exists_mapM_of_forall accepted with ⟨found, mapped⟩
  rcases isMember.leaf with ⟨leaf, isLeaf⟩
  have inFound : some leaf ∈ found :=
    (PartialMap.mem_of_mapM mapped).mpr ⟨line, inLines, isLeaf⟩
  have someLeaf : found.filterMap id ≠ [] :=
    List.ne_nil_of_mem (List.mem_filterMap.mpr ⟨_, inFound, rfl⟩)
  refine ⟨ContentHash.fileSetV1Wrapper blake3 (found.filterMap id), ?_⟩
  have isComponent : (EntryFileSet.mk lines).fileSetV1Component blake3 =
      some (ContentHash.fileSetV1Wrapper blake3 (found.filterMap id)) := by
    unfold EntryFileSet.fileSetV1Component
    rw [isStructured, isComplete]
    dsimp only
    rw [mapped]
    simp only [Bool.not_true, Bool.or_self, Bool.false_eq_true, if_false,
      List.isEmpty_iff, if_neg someLeaf]
  unfold computeFileSetComponent
  rw [areLines]
  dsimp only
  rw [isComponent]

end OpenClipboard
