import OpenClipboard.Library.FreshName
import OpenClipboard.MobileSync.Staging
import OpenClipboard.Wire.PayloadCodec

/-!
# Where inbound files are written

Without a save directory of the user the materializer writes below
`iroh-blobs` in its cache directory.  Entry ids, file names, root names and
relative paths are texts of the peer; each of them becomes part of a path
through a check or a replacement of its own.  What a joined text does depends
on the platform: on Windows a text that starts with a drive replaces the path
it is joined to.
-/

namespace OpenClipboard.InboundTargets

open Text MobileSync

/-! ## Segments and paths -/

inductive Platform where
  | unix
  | windows
  deriving DecidableEq, Repr

/-- A text without separators. -/
structure Segment where
  text : String
  noSlash : '/' ∉ text.toList
  noBackslash : '\\' ∉ text.toList

/-- The letter of the drive that a text starts with, and the rest. -/
def drivePrefix (text : String) : Option (Char × String) :=
  match text.toList with
  | letter :: ':' :: rest =>
      if letter.isAlpha then some (letter, String.ofList rest) else none
  | _ => none

variable {left right : Segment} {c : Char} {name : Segment}
  {member : InboundFileSetMember} {members : List InboundFileSetMember}

namespace Segment

def ofText (text : String) : Option Segment :=
  if plain : '/' ∉ text.toList ∧ '\\' ∉ text.toList then
    some ⟨text, plain.1, plain.2⟩
  else
    none

theorem text_of_ofText {text : String} {segment : Segment}
    (isSegment : ofText text = some segment) : segment.text = text := by
  unfold ofText at isSegment
  split at isSegment
  · cases isSegment
    rfl
  · cases isSegment

@[ext]
theorem ext (sameText : left.text = right.text) :
    left = right := by
  cases left
  cases right
  cases sameText
  rfl

instance decidableEqSegment : DecidableEq Segment := fun left right =>
  decidable_of_iff (left.text = right.text) ⟨ext, congrArg text⟩

def append (left right : Segment) : Segment where
  text := left.text ++ right.text
  noSlash := by
    rw [String.toList_append, List.mem_append, not_or]
    exact ⟨left.noSlash, right.noSlash⟩
  noBackslash := by
    rw [String.toList_append, List.mem_append, not_or]
    exact ⟨left.noBackslash, right.noBackslash⟩

theorem digits_clean (number : Nat) (notDigit : c.isDigit = false) :
    c ∉ number.repr.toList := by
  intro member
  rw [Nat.toList_repr] at member
  have isDigit := Nat.isDigit_of_mem_toDigits (by decide) (by decide) member
  rw [notDigit] at isDigit
  cases isDigit

def decimal (number : Nat) : Segment where
  text := number.repr
  noSlash := digits_clean number (by decide)
  noBackslash := digits_clean number (by decide)

end Segment

/-- What a path starts with: a root, or a drive without one. -/
inductive Anchor where
  | absolute (text : String)
  | drive (letter : Char)
  deriving DecidableEq, Repr

structure LexicalPath where
  anchor : Anchor
  components : List String
  deriving DecidableEq, Repr

namespace LexicalPath

/-- `Path::join` with a text without separators. -/
def join (platform : Platform) (path : LexicalPath) (segment : Segment) :
    LexicalPath :=
  match platform, drivePrefix segment.text with
  | .windows, some (letter, rest) =>
      { anchor := .drive letter
        components := if rest = "" then [] else [rest] }
  | _, _ =>
      if segment.text = "" ∨ segment.text = "." then path
      else { path with components := path.components ++ [segment.text] }

/-- The path is the root, and then components that do not lead back. -/
def Within (root path : LexicalPath) : Prop :=
  path.anchor = root.anchor ∧ ∃ rest, ".." ∉ rest ∧
    path.components = root.components ++ rest

def StrictlyBelow (root path : LexicalPath) : Prop :=
  path.anchor = root.anchor ∧ ∃ rest, rest ≠ [] ∧ ".." ∉ rest ∧
    path.components = root.components ++ rest

/-- The text does not replace the path that it is joined to. -/
def Stays (platform : Platform) (text : String) : Prop :=
  platform = .unix ∨ drivePrefix text = none

section Join

variable {platform : Platform} {root path : LexicalPath} {segment : Segment}

theorem join_of_stays (stays : Stays platform segment.text) :
    path.join platform segment =
      if segment.text = "" ∨ segment.text = "." then path
      else { path with components := path.components ++ [segment.text] } := by
  unfold join
  cases platform with
  | unix => rfl
  | windows =>
      have noDrive : drivePrefix segment.text = none := by
        rcases stays with isUnix | noDrive
        · cases isUnix
        · exact noDrive
      rw [noDrive]

theorem join_of_not_stays (leaves : ¬ Stays platform segment.text) :
    ∃ letter, (path.join platform segment).anchor = .drive letter := by
  rcases not_or.mp leaves with ⟨notUnix, hasDrive⟩
  cases platform with
  | unix => exact absurd rfl notUnix
  | windows =>
      rcases Option.ne_none_iff_exists'.mp hasDrive
        with ⟨⟨letter, rest⟩, isDrive⟩
      refine ⟨letter, ?_⟩
      unfold join
      rw [isDrive]

theorem toList_of_drivePrefix {text rest : String} {letter : Char}
    (isDrive : drivePrefix text = some (letter, rest)) :
    text.toList = letter :: ':' :: rest.toList := by
  unfold drivePrefix at isDrive
  split at isDrive
  · rename_i first tail isText
    split at isDrive
    · cases isDrive
      rw [isText, String.toList_ofList]
    · cases isDrive
  · cases isDrive

theorem join_injective_of_not_stays {other : Segment}
    (leaves : ¬ Stays platform segment.text)
    (otherLeaves : ¬ Stays platform other.text)
    (same : path.join platform segment = path.join platform other) :
    segment = other := by
  rcases not_or.mp leaves with ⟨notUnix, hasDrive⟩
  rcases not_or.mp otherLeaves with ⟨_, otherDrive⟩
  rcases Option.ne_none_iff_exists'.mp hasDrive with ⟨⟨letter, rest⟩, isDrive⟩
  rcases Option.ne_none_iff_exists'.mp otherDrive
    with ⟨⟨otherLetter, otherRest⟩, isOther⟩
  cases platform with
  | unix => exact absurd rfl notUnix
  | windows =>
      unfold join at same
      rw [isDrive, isOther] at same
      have sameLetter := Anchor.drive.inj (congrArg anchor same)
      have samePieces := congrArg components same
      dsimp only at samePieces
      have sameRest : rest = otherRest := by
        split at samePieces
        · split at samePieces
          · simp_all
          · cases samePieces
        · split at samePieces
          · cases samePieces
          · exact List.singleton_injective samePieces
      apply Segment.ext
      apply String.toList_injective
      rw [toList_of_drivePrefix isDrive, toList_of_drivePrefix isOther,
        sameLetter, sameRest]

theorem within_refl : Within path path :=
  ⟨rfl, [], List.not_mem_nil, (List.append_nil _).symm⟩

theorem StrictlyBelow.within (below : StrictlyBelow root path) :
    Within root path := by
  rcases below with ⟨sameAnchor, rest, _, noParent, isRest⟩
  exact ⟨sameAnchor, rest, noParent, isRest⟩

theorem Within.strictlyBelow_of_within {middle : LexicalPath}
    (outer : Within root middle) (inner : StrictlyBelow middle path) :
    StrictlyBelow root path := by
  rcases outer with ⟨outerAnchor, outerRest, outerClean, isOuter⟩
  rcases inner with ⟨innerAnchor, innerRest, nonempty, innerClean, isInner⟩
  refine ⟨innerAnchor.trans outerAnchor, outerRest ++ innerRest, ?_, ?_, ?_⟩
  · simp [nonempty]
  · rw [List.mem_append, not_or]
    exact ⟨outerClean, innerClean⟩
  · rw [isInner, isOuter, List.append_assoc]

theorem Within.join (below : Within root path)
    (stays : Stays platform segment.text) (notParent : segment.text ≠ "..") :
    Within root (path.join platform segment) := by
  rw [join_of_stays stays]
  by_cases isNothing : segment.text = "" ∨ segment.text = "."
  · rw [if_pos isNothing]
    exact below
  · rw [if_neg isNothing]
    rcases below with ⟨sameAnchor, rest, noParent, isRest⟩
    refine ⟨sameAnchor, rest ++ [segment.text], ?_, ?_⟩
    · rw [List.mem_append, not_or, List.mem_singleton]
      exact ⟨noParent, Ne.symm notParent⟩
    · simp only [isRest, List.append_assoc]

theorem Within.join_strictlyBelow (below : Within root path)
    (stays : Stays platform segment.text) (nonempty : segment.text ≠ "")
    (notCurrent : segment.text ≠ ".") (notParent : segment.text ≠ "..") :
    StrictlyBelow root (path.join platform segment) := by
  rw [join_of_stays stays, if_neg (not_or.mpr ⟨nonempty, notCurrent⟩)]
  rcases below with ⟨sameAnchor, rest, noParent, isRest⟩
  refine ⟨sameAnchor, rest ++ [segment.text], by simp, ?_, ?_⟩
  · rw [List.mem_append, not_or, List.mem_singleton]
    exact ⟨noParent, Ne.symm notParent⟩
  · simp only [isRest, List.append_assoc]

theorem anchor_join_of_stays (stays : Stays platform segment.text) :
    (path.join platform segment).anchor = path.anchor := by
  rw [join_of_stays stays]
  split
  · rfl
  · rfl

end Join

end LexicalPath

/-! ## Names -/

theorem mem_sanitized {value : String}
    (member : c ∈ trimDots (trimChars (value.toList.map
      (replaceUnsafe ['/', '\\', ':', '\x00'])))) :
    c ∉ ['/', '\\', ':', '\x00'] := by
  intro isUnsafe
  rcases List.mem_map.mp (mem_of_mem_trimChars (mem_of_mem_trimDots member))
    with ⟨original, _, isReplaced⟩
  have notUnderscore : c ≠ '_' := by
    intro isUnderscore
    rw [isUnderscore] at isUnsafe
    exact absurd isUnsafe (by decide)
  exact replaceUnsafe_ne isUnsafe notUnderscore original isReplaced

def sanitizePathSegment (value : String) : Segment where
  text := String.ofList (trimDots (trimChars (value.toList.map
    (replaceUnsafe ['/', '\\', ':', '\x00']))))
  noSlash := by
    rw [String.toList_ofList]
    exact fun member => mem_sanitized member (by decide)
  noBackslash := by
    rw [String.toList_ofList]
    exact fun member => mem_sanitized member (by decide)

theorem stays_of_noColon {platform : Platform} {text : String}
    (noColon : ':' ∉ text.toList) : LexicalPath.Stays platform text := by
  right
  unfold drivePrefix
  split
  · rename_i letter rest isText
    rw [isText] at noColon
    simp at noColon
  · rfl

theorem noColon_sanitized (value : String) :
    ':' ∉ (sanitizePathSegment value).text.toList := by
  unfold sanitizePathSegment
  rw [String.toList_ofList]
  exact fun member => mem_sanitized member (by decide)

theorem sanitized_ne_dots (value : String) :
    (sanitizePathSegment value).text ≠ "." ∧
      (sanitizePathSegment value).text ≠ ".." := by
  constructor
  · intro isCurrent
    have isChars := congrArg String.toList isCurrent
    rw [sanitizePathSegment, String.toList_ofList] at isChars
    exact trimDots_ne_dot_cons _ _ isChars
  · intro isParent
    have isChars := congrArg String.toList isParent
    rw [sanitizePathSegment, String.toList_ofList] at isChars
    exact trimDots_ne_dot_cons _ _ isChars

def blobName (idx : Nat) : Segment :=
  (Segment.append ⟨"blob-", by decide, by decide⟩ (.decimal idx))

def numberedName (base : Segment) (counter : Nat) : Segment :=
  ((Segment.decimal counter).append ⟨"-", by decide, by decide⟩).append base

/-- A name that stays where it is joined, and leads down. -/
structure IsPlain (segment : Segment) : Prop where
  nonempty : segment.text ≠ ""
  notCurrent : segment.text ≠ "."
  notParent : segment.text ≠ ".."
  noColon : ':' ∉ segment.text.toList

theorem isPlain_of_mem {segment : Segment} (member : c ∈ segment.text.toList)
    (notDot : c ≠ '.') (noColon : ':' ∉ segment.text.toList) :
    IsPlain segment where
  nonempty := by
    intro isEmpty
    rw [isEmpty] at member
    cases member
  notCurrent := by
    intro isCurrent
    rw [isCurrent] at member
    exact notDot (List.mem_singleton.mp member)
  notParent := by
    intro isParent
    rw [isParent] at member
    have isDot : c ∈ ['.', '.'] := member
    simp [notDot] at isDot
  noColon := noColon

theorem noColon_append (leftClean : ':' ∉ left.text.toList)
    (rightClean : ':' ∉ right.text.toList) :
    ':' ∉ (left.append right).text.toList := by
  unfold Segment.append
  rw [String.toList_append, List.mem_append, not_or]
  exact ⟨leftClean, rightClean⟩

theorem mem_append_left (member : c ∈ left.text.toList) :
    c ∈ (left.append right).text.toList := by
  unfold Segment.append
  rw [String.toList_append, List.mem_append]
  exact Or.inl member

theorem mem_append_right (member : c ∈ right.text.toList) :
    c ∈ (left.append right).text.toList := by
  unfold Segment.append
  rw [String.toList_append, List.mem_append]
  exact Or.inr member

theorem noColon_decimal (number : Nat) :
    ':' ∉ (Segment.decimal number).text.toList :=
  Segment.digits_clean number (by decide)

theorem isPlain_blobName (idx : Nat) : IsPlain (blobName idx) :=
  isPlain_of_mem (c := 'b') (mem_append_left (by decide)) (by decide)
    (noColon_append (by decide) (noColon_decimal idx))

theorem isPlain_numberedName {base : Segment} (isPlain : IsPlain base)
    (counter : Nat) : IsPlain (numberedName base counter) :=
  isPlain_of_mem (c := '-') (mem_append_left (mem_append_right (by decide)))
    (by decide)
    (noColon_append (noColon_append (noColon_decimal counter) (by decide))
      isPlain.noColon)

theorem numberedName_injective (base : Segment) :
    Function.Injective (numberedName base) := by
  intro left right same
  have sameText := congrArg (fun segment => segment.text.toList) same
  simp only [numberedName, Segment.append, Segment.decimal,
    String.toList_append, List.append_assoc] at sameText
  have sameDigits := List.append_cancel_right sameText
  exact Nat.repr_injective (String.toList_injective sameDigits)

/-- Where the materializer writes: the cache directory, and `Path::file_name`
of the platform. -/
structure FileCacheBlobMaterializer where
  platform : Platform
  fileName : String → Option String
  cacheRoot : String
  cachePath : List String

/-- What the peer sent: the blobs, and the manifest of a directory set. -/
structure Delivery where
  receiverEntryId : String
  blobRefs : List V3BlobRef
  manifest : Option InboundFileSetManifest
  /-- The decoder accepts no more members. -/
  fewMembers : ∀ sent, manifest = some sent →
    sent.members.length ≤ PayloadCodec.maxBlobRefs

structure RootName extends Segment where
  nonempty : text ≠ ""
  notCurrent : text ≠ "."
  notParent : text ≠ ".."
  deriving DecidableEq

structure DirectoryRoot where
  index : Nat
  name : RootName
  isFile : Bool
  deriving DecidableEq

def validateManifestMember (member : InboundFileSetMember) :
    Except String RootName :=
  match Segment.ofText member.rootName with
  | none => .error "invalid directory root name"
  | some name =>
      if valid : name.text ≠ "" ∧ name.text ≠ "." ∧ name.text ≠ ".." then
        if member.relativePath = "" then
          .error "directory member has an empty relative path"
        else if member.rootIsFile = true ∧
            (member.relativePath ≠ member.rootName ∨
              member.kind = .emptyDirectory) then
          .error "invalid top-level file member"
        else
          .ok ⟨name, valid.1, valid.2.1, valid.2.2⟩
      else
        .error "invalid directory root name"

/-- One member in the loop that collects the roots by their index. -/
def addRoot (roots : List DirectoryRoot) (member : InboundFileSetMember) :
    Except String (List DirectoryRoot) :=
  match validateManifestMember member with
  | .error err => .error err
  | .ok name =>
      match roots.find? fun root => root.index = member.rootIndex with
      | none =>
          .ok (roots.orderedInsert (fun left right => left.index ≤ right.index)
            ⟨member.rootIndex, name, member.rootIsFile⟩)
      | some existing =>
          if existing.name ≠ name ∨ existing.isFile ≠ member.rootIsFile then
            .error s!"directory root {member.rootIndex} has conflicting names"
          else
            .ok roots

def collectRoots (members : List InboundFileSetMember) :
    Except String (List DirectoryRoot) :=
  match members.foldlM addRoot [] with
  | .error err => .error err
  | .ok roots =>
      if ∃ root ∈ roots, root.isFile = true ∧
          members.countP (fun member => member.rootIndex = root.index) ≠ 1 then
        .error "top-level file root must have exactly one member"
      else
        .ok roots

def checkMemberBlob (blobRefs : List V3BlobRef)
    (member : InboundFileSetMember) : Except String Unit :=
  match member.kind, member.blobRefIndex with
  | .emptyDirectory, some _ =>
      .error "empty directory member references a blob"
  | .emptyDirectory, none => .ok ()
  | _, none => .error "file member is missing its blob reference"
  | _, some index =>
      match blobRefs[index]? with
      | none =>
          .error s!"directory blob reference index {index} is out of bounds"
      | some blobRef =>
          if blobRef.representationIndex.isSome then
            .error "directory member references a representation blob"
          else
            .ok ()

variable {parent destination : LexicalPath} {pathExists : LexicalPath → Bool}
  {reserved : List LexicalPath}

namespace FileCacheBlobMaterializer

variable (materializer : FileCacheBlobMaterializer)

def cacheDir : LexicalPath where
  anchor := .absolute materializer.cacheRoot
  components := materializer.cachePath

def join (path : LexicalPath) (segment : Segment) : LexicalPath :=
  path.join materializer.platform segment

def blobDir : LexicalPath :=
  materializer.join materializer.cacheDir
    ⟨"iroh-blobs", by decide, by decide⟩

/-! ## Free-standing files -/

/-- The name that `unique_filename` starts from. -/
def baseName (candidate : Option String) (idx : Nat) : Segment :=
  match (candidate.bind materializer.fileName).map sanitizePathSegment with
  | none => blobName idx
  | some name => if name.text = "" then blobName idx else name

/-- `unique_filename`, with the names used after it. -/
def uniqueFilename (candidate : Option String) (idx : Nat)
    (used : List Segment) : Segment × List Segment :=
  let base := materializer.baseName candidate idx
  if base ∈ used then
    let name := (FreshName.search (numberedName base)
      (fun name => decide (name ∈ used)) (used.length + 1) 1).get
        (FreshName.isSome_search (numberedName_injective base)
          (fun _ isUsed => of_decide_eq_true isUsed) (Nat.lt_succ_self _))
    (name, name :: used)
  else
    (base, base :: used)

def managedTarget (blobRef : V3BlobRef) (name : Segment) : LexicalPath :=
  materializer.join (materializer.join materializer.blobDir
    (sanitizePathSegment blobRef.entryId)) name

/-- The targets of the file blobs, from the one at `idx` on. -/
def targetsFrom : Nat → List Segment → List V3BlobRef → List LexicalPath
  | _, _, [] => []
  | idx, used, blobRef :: rest =>
      let named := materializer.uniqueFilename blobRef.filename idx used
      materializer.managedTarget blobRef named.1 ::
        targetsFrom (idx + 1) named.2 rest

def freeStandingTargets (delivery : Delivery) : List LexicalPath :=
  match delivery.manifest with
  | some _ => []
  | none =>
      materializer.targetsFrom 0 [] <| delivery.blobRefs.filter fun blobRef =>
        blobRef.representationIndex.isNone

section Names

variable {materializer}

theorem isPlain_baseName (candidate : Option String) (idx : Nat) :
    IsPlain (materializer.baseName candidate idx) := by
  unfold baseName
  split
  · exact isPlain_blobName idx
  · rename_i name isName
    split
    · exact isPlain_blobName idx
    · rename_i nonempty
      rcases Option.map_eq_some_iff.mp isName with ⟨original, _, isSanitized⟩
      subst isSanitized
      exact ⟨nonempty, (sanitized_ne_dots original).1,
        (sanitized_ne_dots original).2, noColon_sanitized original⟩

theorem uniqueFilename_spec (candidate : Option String) (idx : Nat)
    (used : List Segment) :
    IsPlain (materializer.uniqueFilename candidate idx used).1 ∧
      (materializer.uniqueFilename candidate idx used).1 ∉ used ∧
      (materializer.uniqueFilename candidate idx used).2 =
        (materializer.uniqueFilename candidate idx used).1 :: used := by
  have isPlain := materializer.isPlain_baseName candidate idx
  unfold uniqueFilename
  by_cases isUsed : materializer.baseName candidate idx ∈ used
  · simp only [if_pos isUsed]
    have isFound : (FreshName.search
        (numberedName (materializer.baseName candidate idx))
        (fun name => decide (name ∈ used)) (used.length + 1) 1).isSome = true :=
      FreshName.isSome_search (numberedName_injective _)
        (fun _ isUsed => of_decide_eq_true isUsed)
        (Nat.lt_succ_self used.length)
    have found := Option.eq_some_of_isSome isFound
    rcases FreshName.search_eq_some found with ⟨isFree, index, _, isName⟩
    refine ⟨?_, of_decide_eq_false isFree, trivial⟩
    rw [isName]
    exact isPlain_numberedName isPlain index
  · simp only [if_neg isUsed]
    exact ⟨isPlain, isUsed, trivial⟩

theorem within_blobDir_entryDir (entryId : String) :
    LexicalPath.Within materializer.blobDir
      (materializer.join materializer.blobDir (sanitizePathSegment entryId)) :=
  LexicalPath.within_refl.join (stays_of_noColon (noColon_sanitized entryId))
    (sanitized_ne_dots entryId).2

theorem strictlyBelow_managedTarget (blobRef : V3BlobRef)
    (isPlain : IsPlain name) :
    LexicalPath.StrictlyBelow materializer.blobDir
      (materializer.managedTarget blobRef name) :=
  (within_blobDir_entryDir blobRef.entryId).join_strictlyBelow
    (stays_of_noColon isPlain.noColon) isPlain.nonempty isPlain.notCurrent
    isPlain.notParent

theorem getLast?_managedTarget (blobRef : V3BlobRef) (isPlain : IsPlain name) :
    (materializer.managedTarget blobRef name).components.getLast? =
      some name.text := by
  unfold managedTarget join
  rw [LexicalPath.join_of_stays (stays_of_noColon isPlain.noColon),
    if_neg (not_or.mpr ⟨isPlain.nonempty, isPlain.notCurrent⟩),
    List.getLast?_append, List.getLast?_singleton]
  rfl

/-- Every target lies below, and ends in a name that was not in use. -/
theorem targetsFrom_spec (idx : Nat) (used : List Segment)
    (blobRefs : List V3BlobRef) :
    (∀ target ∈ materializer.targetsFrom idx used blobRefs,
      LexicalPath.StrictlyBelow materializer.blobDir target ∧
        ∃ name ∉ used, target.components.getLast? = some name.text) ∧
      (materializer.targetsFrom idx used blobRefs).Nodup := by
  induction blobRefs generalizing idx used with
  | nil => exact ⟨by simp [targetsFrom], List.nodup_nil⟩
  | cons blobRef rest inductionHypothesis =>
      have spec := materializer.uniqueFilename_spec blobRef.filename idx used
      rw [targetsFrom]
      generalize materializer.uniqueFilename blobRef.filename idx used = named
        at spec
      rcases named with ⟨name, usedAfter⟩
      rcases spec with ⟨isPlain, isNew, isAdded⟩
      dsimp only at isPlain isNew isAdded
      subst isAdded
      have isLast := materializer.getLast?_managedTarget blobRef isPlain
      have later := inductionHypothesis (idx + 1) (name :: used)
      constructor
      · intro target member
        rcases List.mem_cons.mp member with isHead | inRest
        · rw [isHead]
          exact ⟨strictlyBelow_managedTarget blobRef isPlain, name, isNew,
            isLast⟩
        · rcases later.1 target inRest with ⟨below, other, notUsed, isOther⟩
          exact ⟨below, other, fun inUse =>
            notUsed (List.mem_cons_of_mem _ inUse), isOther⟩
      · rw [List.nodup_cons]
        refine ⟨?_, later.2⟩
        intro again
        rcases later.1 _ again with ⟨_, other, notUsed, isOther⟩
        have sameText := Option.some.inj (isLast.symm.trans isOther)
        apply notUsed
        rw [← Segment.ext sameText]
        exact List.mem_cons_self

end Names

/-! ## Directories -/

def stagingBase (delivery : Delivery) : LexicalPath :=
  materializer.join (materializer.join materializer.blobDir
    ⟨"staging", by decide, by decide⟩)
    (sanitizePathSegment delivery.receiverEntryId)

def stagingRoot (base : LexicalPath) (rootIndex : Nat) (rootName : String) :
    LexicalPath :=
  materializer.join base <| ((Segment.decimal rootIndex).append
    ⟨"-", by decide, by decide⟩).append (sanitizePathSegment rootName)

/-- One component in `join_relative_path`. -/
def pushComponent (path : LexicalPath) (component : String) :
    Except String LexicalPath :=
  if component = "" ∨ component = "." ∨ component = ".." then
    .error "invalid directory member relative path"
  else
    match Segment.ofText component with
    | none => .error "invalid directory member relative path"
    | some segment => .ok (materializer.join path segment)

/-- `split('/')`. -/
def relativeComponents (relativePath : String) : List String :=
  (relativePath.toList.splitOn '/').map String.ofList

def joinRelativePath (root : LexicalPath) (relativePath : String) :
    Except String LexicalPath :=
  (relativeComponents relativePath).foldlM materializer.pushComponent root

structure StagedMember where
  member : InboundFileSetMember
  root : LexicalPath
  target : LexicalPath

def stageMember (delivery : Delivery) (member : InboundFileSetMember) :
    Except String StagedMember :=
  let root := materializer.stagingRoot (materializer.stagingBase delivery)
    member.rootIndex member.rootName
  let target :=
    if member.rootIsFile then .ok root
    else materializer.joinRelativePath root member.relativePath
  match target with
  | .error err => .error err
  | .ok target =>
      match checkMemberBlob delivery.blobRefs member with
      | .error err => .error err
      | .ok () => .ok ⟨member, root, target⟩

def stageMembers (delivery : Delivery) :
    List InboundFileSetMember → List StagedMember
  | [] => []
  | member :: rest =>
      match materializer.stageMember delivery member with
      | .error _ => []
      | .ok staged => staged :: stageMembers delivery rest

def manifestRoots (delivery : Delivery) : List DirectoryRoot :=
  match delivery.manifest with
  | none => []
  | some manifest =>
      match collectRoots manifest.members with
      | .error _ => []
      | .ok roots => roots

def stagedMembers (delivery : Delivery) : List StagedMember :=
  match delivery.manifest with
  | none => []
  | some manifest =>
      match collectRoots manifest.members with
      | .error _ => []
      | .ok _ => materializer.stageMembers delivery manifest.members

def promotedRoots (delivery : Delivery) : List DirectoryRoot :=
  match delivery.manifest with
  | none => []
  | some manifest =>
      if (materializer.stagedMembers delivery).length =
          manifest.members.length then
        manifestRoots delivery
      else
        []

def suffixedName (name : Segment) (suffix : Nat) : Segment :=
  ((name.append ⟨" (", by decide, by decide⟩).append (.decimal suffix)).append
    ⟨")", by decide, by decide⟩

/-- `resolve_nonconflicting_root_path`; `none` when the suffixes of 32 bits are
exhausted. -/
def resolveNonconflictingRootPath (pathExists : LexicalPath → Bool)
    (parent : LexicalPath) (desiredName : Segment)
    (reserved : List LexicalPath) : Option LexicalPath :=
  let taken (path : LexicalPath) := decide (path ∈ reserved) || pathExists path
  if taken (materializer.join parent desiredName) then
    FreshName.search
      (fun suffix => materializer.join parent (suffixedName desiredName suffix))
      taken (2 ^ 32 - 2) 2
  else
    some (materializer.join parent desiredName)

def assignDestinations (pathExists : LexicalPath → Bool)
    (parent : LexicalPath) :
    List LexicalPath → List DirectoryRoot → Except String (List LexicalPath)
  | _, [] => .ok []
  | reserved, root :: rest =>
      match materializer.resolveNonconflictingRootPath pathExists parent
          root.name.toSegment reserved with
      | none => .error "directory collision suffix space exhausted"
      | some destination =>
          match assignDestinations pathExists parent (destination :: reserved)
              rest with
          | .error err => .error err
          | .ok destinations => .ok (destination :: destinations)

/-- Where `promote_root` copies a root to that cannot be renamed. -/
def hiddenCopy (destination : LexicalPath) : Option LexicalPath :=
  match destination.components.getLast? with
  | none => none
  | some fileName =>
      if fileName = ".." then none
      else some { destination with
        components := destination.components.dropLast ++
          [".uniclip-staging-" ++ fileName] }

def destinations (pathExists : LexicalPath → Bool) (delivery : Delivery) :
    List LexicalPath :=
  match materializer.assignDestinations pathExists
      (materializer.join materializer.blobDir
        (sanitizePathSegment delivery.receiverEntryId))
      [] (materializer.promotedRoots delivery) with
  | .error _ => []
  | .ok destinations => destinations

/-- The paths of a directory set: staging roots, members, destinations, and
the copies beside them. -/
def directoryTargets (pathExists : LexicalPath → Bool) (delivery : Delivery) :
    List LexicalPath :=
  ((manifestRoots delivery).filter fun root => !root.isFile).map
      (fun root => materializer.stagingRoot
        (materializer.stagingBase delivery) root.index root.name.text) ++
    (materializer.stagedMembers delivery).map StagedMember.target ++
    materializer.destinations pathExists delivery ++
    (materializer.destinations pathExists delivery).filterMap hiddenCopy

/-! ### Staging -/

section Staging

variable {materializer} {delivery : Delivery}

theorem anchor_blobDir :
    materializer.blobDir.anchor = .absolute materializer.cacheRoot :=
  LexicalPath.anchor_join_of_stays (stays_of_noColon (by decide))

theorem strictlyBelow_stagingRoot (rootIndex : Nat) (rootName : String) :
    LexicalPath.StrictlyBelow materializer.blobDir
      (materializer.stagingRoot (materializer.stagingBase delivery) rootIndex
        rootName) := by
  have inStaging : LexicalPath.Within materializer.blobDir
      (materializer.join materializer.blobDir
        ⟨"staging", by decide, by decide⟩) :=
    LexicalPath.within_refl.join (stays_of_noColon (by decide)) (by decide)
  have inBase : LexicalPath.Within materializer.blobDir
      (materializer.stagingBase delivery) :=
    inStaging.join
      (stays_of_noColon (noColon_sanitized delivery.receiverEntryId))
      (sanitized_ne_dots delivery.receiverEntryId).2
  have isPlain : IsPlain (((Segment.decimal rootIndex).append
      ⟨"-", by decide, by decide⟩).append (sanitizePathSegment rootName)) :=
    isPlain_of_mem (c := '-') (mem_append_left (mem_append_right (by decide)))
      (by decide)
      (noColon_append (noColon_append (noColon_decimal rootIndex) (by decide))
        (noColon_sanitized rootName))
  exact inBase.join_strictlyBelow (stays_of_noColon isPlain.noColon)
    isPlain.nonempty isPlain.notCurrent isPlain.notParent

theorem pushComponent_ok {path pushed : LexicalPath} {component : String}
    (isPushed : materializer.pushComponent path component = .ok pushed) :
    ∃ segment : Segment, segment.text = component ∧ segment.text ≠ "" ∧
      segment.text ≠ "." ∧ segment.text ≠ ".." ∧
      pushed = materializer.join path segment := by
  unfold pushComponent at isPushed
  by_cases isSpecial : component = "" ∨ component = "." ∨ component = ".."
  · rw [if_pos isSpecial] at isPushed
    cases isPushed
  · rw [if_neg isSpecial] at isPushed
    rcases not_or.mp isSpecial with ⟨nonempty, noDots⟩
    rcases not_or.mp noDots with ⟨notCurrent, notParent⟩
    split at isPushed
    · cases isPushed
    · rename_i segment isSegment
      cases isPushed
      have sameText := Segment.text_of_ofText isSegment
      rw [← sameText] at nonempty notCurrent notParent
      exact ⟨segment, sameText, nonempty, notCurrent, notParent, rfl⟩

theorem foldlM_pushComponent_cons {path target : LexicalPath}
    {component : String} {rest : List String}
    (isJoined : (component :: rest).foldlM materializer.pushComponent path =
      .ok target) :
    ∃ pushed, materializer.pushComponent path component = .ok pushed ∧
      rest.foldlM materializer.pushComponent pushed = .ok target := by
  rw [List.foldlM_cons] at isJoined
  cases isPushed : materializer.pushComponent path component with
  | error err =>
      rw [isPushed] at isJoined
      cases isJoined
  | ok pushed =>
      rw [isPushed] at isJoined
      exact ⟨pushed, rfl, isJoined⟩

theorem strictlyBelow_foldlM {root path target : LexicalPath}
    {components : List String}
    (isJoined : components.foldlM materializer.pushComponent path = .ok target)
    (stay : ∀ component ∈ components,
      LexicalPath.Stays materializer.platform component)
    (below : LexicalPath.StrictlyBelow root path) :
    LexicalPath.StrictlyBelow root target := by
  induction components generalizing path with
  | nil =>
      cases isJoined
      exact below
  | cons component rest inductionHypothesis =>
      rcases foldlM_pushComponent_cons isJoined with
        ⟨pushed, isPushed, isRest⟩
      rcases pushComponent_ok isPushed with
        ⟨segment, sameText, nonempty, notCurrent, notParent, isJoin⟩
      apply inductionHypothesis isRest
      · exact fun later member => stay later (List.mem_cons_of_mem _ member)
      · rw [isJoin]
        have stays := stay component List.mem_cons_self
        rw [← sameText] at stays
        exact below.within.join_strictlyBelow stays nonempty notCurrent
          notParent

theorem relativeComponents_ne_nil (relativePath : String) :
    relativeComponents relativePath ≠ [] := by
  unfold relativeComponents
  rw [ne_eq, List.map_eq_nil_iff]
  exact List.splitOn_ne_nil _ _

theorem strictlyBelow_joinRelativePath {root target : LexicalPath}
    {relativePath : String}
    (isJoined : materializer.joinRelativePath root relativePath = .ok target)
    (stay : ∀ component ∈ relativeComponents relativePath,
      LexicalPath.Stays materializer.platform component) :
    LexicalPath.StrictlyBelow root target := by
  unfold joinRelativePath at isJoined
  rcases List.exists_cons_of_ne_nil (relativeComponents_ne_nil relativePath)
    with ⟨component, rest, isComponents⟩
  rw [isComponents] at isJoined stay
  rcases foldlM_pushComponent_cons isJoined with ⟨pushed, isPushed, isRest⟩
  rcases pushComponent_ok isPushed with
    ⟨segment, sameText, nonempty, notCurrent, notParent, isJoin⟩
  apply strictlyBelow_foldlM isRest
  · exact fun later member => stay later (List.mem_cons_of_mem _ member)
  · rw [isJoin]
    have stays := stay component List.mem_cons_self
    rw [← sameText] at stays
    exact LexicalPath.within_refl.join_strictlyBelow stays nonempty notCurrent
      notParent

theorem drive_foldlM {path target : LexicalPath} {components : List String}
    (isJoined : components.foldlM materializer.pushComponent path = .ok target)
    (leaves : (∃ letter, path.anchor = .drive letter) ∨
      ∃ component ∈ components,
        ¬ LexicalPath.Stays materializer.platform component) :
    ∃ letter, target.anchor = .drive letter := by
  induction components generalizing path with
  | nil =>
      cases isJoined
      rcases leaves with onDrive | ⟨_, member, _⟩
      · exact onDrive
      · cases member
  | cons component rest inductionHypothesis =>
      rcases foldlM_pushComponent_cons isJoined with
        ⟨pushed, isPushed, isRest⟩
      rcases pushComponent_ok isPushed with ⟨segment, sameText, _, _, _, isJoin⟩
      apply inductionHypothesis isRest
      by_cases stays : LexicalPath.Stays materializer.platform component
      · rcases leaves with ⟨letter, onDrive⟩ | ⟨other, member, otherLeaves⟩
        · left
          refine ⟨letter, ?_⟩
          rw [← sameText] at stays
          rw [isJoin, join, LexicalPath.anchor_join_of_stays stays, onDrive]
        · right
          rcases List.mem_cons.mp member with isHead | inRest
          · rw [isHead] at otherLeaves
            exact absurd stays otherLeaves
          · exact ⟨other, inRest, otherLeaves⟩
      · left
        rw [← sameText] at stays
        rw [isJoin]
        exact LexicalPath.join_of_not_stays stays

theorem stageMember_ok {staged : StagedMember}
    (isStaged : materializer.stageMember delivery member = .ok staged) :
    staged.root = materializer.stagingRoot (materializer.stagingBase delivery)
        staged.member.rootIndex staged.member.rootName ∧
      (staged.member.rootIsFile = true → staged.target = staged.root) ∧
      (staged.member.rootIsFile = false →
        materializer.joinRelativePath staged.root staged.member.relativePath =
          .ok staged.target) := by
  unfold stageMember at isStaged
  dsimp only at isStaged
  split at isStaged
  · cases isStaged
  · rename_i target isTarget
    split at isStaged
    · cases isStaged
    · cases isStaged
      refine ⟨rfl, ?_, ?_⟩
      · intro isFile
        dsimp only at isFile
        rw [if_pos isFile] at isTarget
        cases isTarget
        rfl
      · intro isDirectory
        dsimp only at isDirectory
        rw [isDirectory] at isTarget
        exact isTarget

theorem mem_stageMembers {staged : StagedMember}
    (isStaged : staged ∈ materializer.stageMembers delivery members) :
    ∃ member, materializer.stageMember delivery member = .ok staged := by
  induction members with
  | nil => cases isStaged
  | cons member rest inductionHypothesis =>
      rw [stageMembers] at isStaged
      split at isStaged
      · cases isStaged
      · rename_i first isFirst
        rcases List.mem_cons.mp isStaged with isHead | inRest
        · rw [isHead]
          exact ⟨member, isFirst⟩
        · exact inductionHypothesis inRest

theorem mem_stagedMembers {staged : StagedMember}
    (isStaged : staged ∈ materializer.stagedMembers delivery) :
    ∃ member, materializer.stageMember delivery member = .ok staged := by
  unfold stagedMembers at isStaged
  split at isStaged
  · cases isStaged
  · split at isStaged
    · cases isStaged
    · exact mem_stageMembers isStaged

end Staging

/-! ### Destinations -/

section Destinations

variable {materializer} {delivery : Delivery}

theorem drivePrefix_append {name : String} (nonempty : name ≠ "")
    {suffix : List Char} (notColon : suffix.head? ≠ some ':') :
    drivePrefix (String.ofList (name.toList ++ suffix)) = none ↔
      drivePrefix name = none := by
  unfold drivePrefix
  rw [String.toList_ofList]
  rcases isName : name.toList with _ | ⟨first, _ | ⟨second, rest⟩⟩
  · exact absurd (String.toList_injective (isName.trans rfl)) nonempty
  · cases suffix with
    | nil => rfl
    | cons next later =>
        have notDrive : next ≠ ':' := by simpa using notColon
        simp [notDrive]
  · by_cases isColon : second = ':'
    · subst isColon
      by_cases isLetter : first.isAlpha = true
      · simp [isLetter]
      · simp [isLetter]
    · simp [isColon]

theorem text_suffixedName (name : Segment) (suffix : Nat) :
    (suffixedName name suffix).text = String.ofList (name.text.toList ++
      (' ' :: '(' :: (suffix.repr.toList ++ [')']))) := by
  apply String.toList_injective
  rw [String.toList_ofList]
  simp [suffixedName, Segment.append, Segment.decimal]

theorem stays_suffixedName (name : RootName) (suffix : Nat)
    {platform : Platform} :
    LexicalPath.Stays platform (suffixedName name.toSegment suffix).text ↔
      LexicalPath.Stays platform name.text := by
  unfold LexicalPath.Stays
  rw [text_suffixedName, drivePrefix_append name.nonempty (by simp)]

theorem suffixedName_ne_dots (name : Segment) (suffix : Nat) :
    (suffixedName name suffix).text ≠ "" ∧
      (suffixedName name suffix).text ≠ "." ∧
      (suffixedName name suffix).text ≠ ".." := by
  have bracket : ')' ∈ (suffixedName name suffix).text.toList :=
    mem_append_right (by decide)
  refine ⟨?_, ?_, ?_⟩
  · intro isEmpty
    rw [isEmpty] at bracket
    cases bracket
  · intro isCurrent
    rw [isCurrent] at bracket
    exact absurd bracket (by decide)
  · intro isParent
    rw [isParent] at bracket
    exact absurd bracket (by decide)

theorem resolve_eq_some
    (isResolved : materializer.resolveNonconflictingRootPath pathExists parent
      name reserved = some destination) :
    ∃ chosen, (chosen = name ∨ ∃ suffix, chosen = suffixedName name suffix) ∧
      destination = materializer.join parent chosen := by
  unfold resolveNonconflictingRootPath at isResolved
  dsimp only at isResolved
  split at isResolved
  · rcases FreshName.search_eq_some isResolved with ⟨_, suffix, _, isPath⟩
    exact ⟨suffixedName name suffix, Or.inr ⟨suffix, rfl⟩, isPath⟩
  · cases isResolved
    exact ⟨name, Or.inl rfl, rfl⟩

theorem forall₂_assignDestinations {parent : LexicalPath}
    {roots : List DirectoryRoot} {chosen : List LexicalPath}
    (isAssigned : materializer.assignDestinations pathExists parent reserved
      roots = .ok chosen) :
    List.Forall₂ (fun root destination => ∃ inUse,
      materializer.resolveNonconflictingRootPath pathExists parent
        root.name.toSegment inUse = some destination) roots chosen := by
  induction roots generalizing reserved chosen with
  | nil =>
      cases isAssigned
      exact List.Forall₂.nil
  | cons root rest inductionHypothesis =>
      rw [assignDestinations] at isAssigned
      split at isAssigned
      · cases isAssigned
      · rename_i destination isResolved
        split at isAssigned
        · cases isAssigned
        · rename_i later isLater
          cases isAssigned
          exact List.Forall₂.cons ⟨reserved, isResolved⟩
            (inductionHypothesis isLater)

theorem strictlyBelow_of_resolve {root parent destination : LexicalPath}
    {name : RootName} (inParent : LexicalPath.Within root parent)
    (stays : LexicalPath.Stays materializer.platform name.text)
    (isResolved : materializer.resolveNonconflictingRootPath pathExists parent
      name.toSegment reserved = some destination) :
    LexicalPath.StrictlyBelow root destination := by
  rcases resolve_eq_some isResolved with ⟨chosen, isChosen, isPath⟩
  rw [isPath]
  rcases isChosen with isBare | ⟨suffix, isSuffixed⟩
  · rw [isBare]
    exact inParent.join_strictlyBelow stays name.nonempty name.notCurrent
      name.notParent
  · rw [isSuffixed]
    rcases suffixedName_ne_dots name.toSegment suffix with
      ⟨nonempty, notCurrent, notParent⟩
    exact inParent.join_strictlyBelow
      ((stays_suffixedName name suffix).mpr stays) nonempty notCurrent notParent

theorem drive_of_resolve {name : RootName}
    (leaves : ¬ LexicalPath.Stays materializer.platform name.text)
    (isResolved : materializer.resolveNonconflictingRootPath pathExists parent
      name.toSegment reserved = some destination) :
    ∃ letter, destination.anchor = .drive letter := by
  rcases resolve_eq_some isResolved with ⟨chosen, isChosen, isPath⟩
  rw [isPath]
  apply LexicalPath.join_of_not_stays
  rcases isChosen with isBare | ⟨suffix, isSuffixed⟩
  · rw [isBare]
    exact leaves
  · rw [isSuffixed, stays_suffixedName]
    exact leaves

theorem suffixedName_injective (name : Segment) :
    Function.Injective (suffixedName name) := by
  intro left right same
  have sameText := congrArg (fun segment => segment.text.toList) same
  simp only [text_suffixedName, String.toList_ofList] at sameText
  have sameSuffix := List.append_cancel_left sameText
  simp only [List.cons.injEq, true_and] at sameSuffix
  have sameDigits := List.append_cancel_right sameSuffix
  exact Nat.repr_injective (String.toList_injective sameDigits)

theorem suffixedPath_injective (parent : LexicalPath) (name : RootName) :
    Function.Injective fun suffix =>
      materializer.join parent (suffixedName name.toSegment suffix) := by
  intro left right same
  apply suffixedName_injective name.toSegment
  dsimp only at same
  unfold join at same
  by_cases stays : LexicalPath.Stays materializer.platform name.text
  · have leftStays := (stays_suffixedName name left).mpr stays
    have rightStays := (stays_suffixedName name right).mpr stays
    rcases suffixedName_ne_dots name.toSegment left with ⟨leftFull, leftDot, _⟩
    rcases suffixedName_ne_dots name.toSegment right
      with ⟨rightFull, rightDot, _⟩
    rw [LexicalPath.join_of_stays leftStays,
      LexicalPath.join_of_stays rightStays,
      if_neg (not_or.mpr ⟨leftFull, leftDot⟩),
      if_neg (not_or.mpr ⟨rightFull, rightDot⟩)] at same
    have sameComponents := List.append_cancel_left
      (congrArg LexicalPath.components same)
    exact Segment.ext (List.singleton_injective sameComponents)
  · have leftLeaves := mt (stays_suffixedName name left).mp stays
    have rightLeaves := mt (stays_suffixedName name right).mp stays
    exact LexicalPath.join_injective_of_not_stays leftLeaves rightLeaves same

theorem exists_assignDestinations (parent : LexicalPath)
    {roots : List DirectoryRoot}
    (few : reserved.length + roots.length ≤ 2 ^ 32 - 2) :
    ∃ chosen, materializer.assignDestinations (fun _ => false) parent reserved
      roots = .ok chosen := by
  induction roots generalizing reserved with
  | nil => exact ⟨[], rfl⟩
  | cons root rest inductionHypothesis =>
      rw [List.length_cons] at few
      have isFound : (FreshName.search
          (fun suffix => materializer.join parent
            (suffixedName root.name.toSegment suffix))
          (fun path => decide (path ∈ reserved) || false)
          (2 ^ 32 - 2) 2).isSome = true := by
        apply FreshName.isSome_search (suffixedPath_injective parent root.name)
        · intro path isTaken
          simpa using isTaken
        · omega
      have isResolved : ∃ destination,
          materializer.resolveNonconflictingRootPath (fun _ => false) parent
            root.name.toSegment reserved = some destination := by
        unfold resolveNonconflictingRootPath
        dsimp only
        split
        · exact Option.isSome_iff_exists.mp isFound
        · exact ⟨_, rfl⟩
      rcases isResolved with ⟨destination, isResolved⟩
      have fewLater : (destination :: reserved).length + rest.length ≤
          2 ^ 32 - 2 := by
        rw [List.length_cons]
        omega
      rcases inductionHypothesis fewLater with ⟨later, isLater⟩
      refine ⟨destination :: later, ?_⟩
      rw [assignDestinations, isResolved]
      dsimp only
      rw [isLater]

theorem length_addRoot {roots after : List DirectoryRoot}
    (isAdded : addRoot roots member = .ok after) :
    after.length ≤ roots.length + 1 := by
  unfold addRoot at isAdded
  split at isAdded
  · cases isAdded
  · split at isAdded
    · cases isAdded
      rw [List.orderedInsert_length]
    · split at isAdded
      · cases isAdded
      · cases isAdded
        omega

theorem length_foldlM_addRoot {roots after : List DirectoryRoot}
    (isCollected : members.foldlM addRoot roots = .ok after) :
    after.length ≤ roots.length + members.length := by
  induction members generalizing roots with
  | nil =>
      cases isCollected
      exact Nat.le_refl _
  | cons member rest inductionHypothesis =>
      rw [List.foldlM_cons] at isCollected
      cases isAdded : addRoot roots member with
      | error err =>
          rw [isAdded] at isCollected
          cases isCollected
      | ok next =>
          rw [isAdded] at isCollected
          have added := length_addRoot isAdded
          have collected := inductionHypothesis isCollected
          rw [List.length_cons]
          omega

theorem length_promotedRoots :
    (materializer.promotedRoots delivery).length ≤
      PayloadCodec.maxBlobRefs := by
  unfold promotedRoots
  split
  · exact Nat.zero_le _
  · rename_i manifest isSent
    split
    · unfold manifestRoots collectRoots
      rw [isSent]
      have few := delivery.fewMembers manifest isSent
      dsimp only
      cases isCollected : manifest.members.foldlM addRoot [] with
      | error err => exact Nat.zero_le _
      | ok roots =>
          have collected := length_foldlM_addRoot isCollected
          rw [List.length_nil] at collected
          dsimp only
          split
          · exact Nat.zero_le _
          · rename_i isRoots
            split at isRoots
            · cases isRoots
            · cases isRoots
              omega
    · exact Nat.zero_le _

theorem strictlyBelow_hiddenCopy {root destination copy : LexicalPath}
    (below : LexicalPath.StrictlyBelow root destination)
    (isCopy : hiddenCopy destination = some copy) :
    LexicalPath.StrictlyBelow root copy := by
  unfold hiddenCopy at isCopy
  split at isCopy
  · cases isCopy
  · rename_i fileName _
    split at isCopy
    · cases isCopy
    · cases isCopy
      rcases below with ⟨sameAnchor, rest, nonempty, noParent, isRest⟩
      refine ⟨sameAnchor,
        rest.dropLast ++ [".uniclip-staging-" ++ fileName], by simp, ?_, ?_⟩
      · rw [List.mem_append, not_or, List.mem_singleton]
        constructor
        · exact fun member => noParent (List.mem_of_mem_dropLast member)
        · intro isParent
          have isChars := congrArg String.toList isParent
          simp at isChars
      · rw [isRest, List.dropLast_append_of_ne_nil nonempty, List.append_assoc]

end Destinations

/-! ## Confinement -/

/-- Every target of a delivery lies below `iroh-blobs`, free-standing files
have targets of their own, and the members of a directory lie below its root. -/
structure Confined (pathExists : LexicalPath → Bool) (delivery : Delivery) :
    Prop where
  freeStanding : ∀ target ∈ materializer.freeStandingTargets delivery,
    LexicalPath.StrictlyBelow materializer.blobDir target
  distinct : (materializer.freeStandingTargets delivery).Nodup
  directory : ∀ target ∈ materializer.directoryTargets pathExists delivery,
    LexicalPath.StrictlyBelow materializer.blobDir target
  members : ∀ staged ∈ materializer.stagedMembers delivery,
    staged.member.rootIsFile = false →
      LexicalPath.StrictlyBelow staged.root staged.target

/-- No text that is joined unchanged starts with a drive. -/
structure DriveFree (delivery : Delivery) : Prop where
  members : ∀ staged ∈ materializer.stagedMembers delivery,
    staged.member.rootIsFile = false →
      ∀ component ∈ relativeComponents staged.member.relativePath,
        drivePrefix component = none
  roots : ∀ root ∈ materializer.promotedRoots delivery,
    drivePrefix root.name.text = none

section Confinement

variable {materializer} {delivery : Delivery}

theorem freeStandingTargets_spec :
    (∀ target ∈ materializer.freeStandingTargets delivery,
      LexicalPath.StrictlyBelow materializer.blobDir target) ∧
      (materializer.freeStandingTargets delivery).Nodup := by
  unfold freeStandingTargets
  split
  · exact ⟨by simp, List.nodup_nil⟩
  · have spec := materializer.targetsFrom_spec 0 []
      (delivery.blobRefs.filter fun blobRef =>
        blobRef.representationIndex.isNone)
    exact ⟨fun target member => (spec.1 target member).1, spec.2⟩

theorem strictlyBelow_staged {staged : StagedMember}
    (isStaged : staged ∈ materializer.stagedMembers delivery)
    (stay : staged.member.rootIsFile = false →
      ∀ component ∈ relativeComponents staged.member.relativePath,
        LexicalPath.Stays materializer.platform component) :
    LexicalPath.StrictlyBelow materializer.blobDir staged.target ∧
      (staged.member.rootIsFile = false →
        LexicalPath.StrictlyBelow staged.root staged.target) := by
  rcases mem_stagedMembers isStaged with ⟨member, isMember⟩
  rcases stageMember_ok isMember with ⟨isRoot, ofFile, ofDirectory⟩
  have rootBelow : LexicalPath.StrictlyBelow materializer.blobDir
      staged.root := by
    rw [isRoot]
    exact strictlyBelow_stagingRoot _ _
  have inRoot : staged.member.rootIsFile = false →
      LexicalPath.StrictlyBelow staged.root staged.target := fun isDirectory =>
    strictlyBelow_joinRelativePath (ofDirectory isDirectory)
      (stay isDirectory)
  refine ⟨?_, inRoot⟩
  by_cases isFile : staged.member.rootIsFile = true
  · rw [ofFile isFile]
    exact rootBelow
  · exact rootBelow.within.strictlyBelow_of_within
      (inRoot (by simpa using isFile))

theorem strictlyBelow_destinations
    (stay : ∀ root ∈ materializer.promotedRoots delivery,
      LexicalPath.Stays materializer.platform root.name.text) :
    ∀ destination ∈ materializer.destinations pathExists delivery,
      LexicalPath.StrictlyBelow materializer.blobDir destination := by
  intro destination member
  unfold destinations at member
  split at member
  · cases member
  · rename_i chosen isAssigned
    have paired := forall₂_assignDestinations isAssigned
    rcases PartialMap.exists_of_forall₂ paired member with
      ⟨root, inRoots, inUse, isResolved⟩
    exact strictlyBelow_of_resolve
      (within_blobDir_entryDir delivery.receiverEntryId) (stay root inRoots)
      isResolved

theorem confined_of_stays
    (membersStay : ∀ staged ∈ materializer.stagedMembers delivery,
      staged.member.rootIsFile = false →
        ∀ component ∈ relativeComponents staged.member.relativePath,
          LexicalPath.Stays materializer.platform component)
    (rootsStay : ∀ root ∈ materializer.promotedRoots delivery,
      LexicalPath.Stays materializer.platform root.name.text) :
    materializer.Confined pathExists delivery where
  freeStanding := freeStandingTargets_spec.1
  distinct := freeStandingTargets_spec.2
  directory := by
    have below : ∀ destination ∈ materializer.destinations pathExists delivery,
        LexicalPath.StrictlyBelow materializer.blobDir destination :=
      strictlyBelow_destinations rootsStay
    intro target member
    unfold directoryTargets at member
    rcases List.mem_append.mp member with earlier | isCopy
    · rcases List.mem_append.mp earlier with staging | isDestination
      · rcases List.mem_append.mp staging with isRoot | isMember
        · rcases List.mem_map.mp isRoot with ⟨root, _, isTarget⟩
          rw [← isTarget]
          exact strictlyBelow_stagingRoot _ _
        · rcases List.mem_map.mp isMember with ⟨staged, isStaged, isTarget⟩
          rw [← isTarget]
          exact (strictlyBelow_staged isStaged
            (membersStay staged isStaged)).1
      · exact below target isDestination
    · rcases List.mem_filterMap.mp isCopy with
        ⟨destination, isDestination, isTarget⟩
      exact strictlyBelow_hiddenCopy (below destination isDestination) isTarget
  members := fun staged isStaged =>
    (strictlyBelow_staged isStaged (membersStay staged isStaged)).2

theorem not_strictlyBelow_of_drive {target : LexicalPath}
    (onDrive : ∃ letter, target.anchor = .drive letter) :
    ¬ LexicalPath.StrictlyBelow materializer.blobDir target := by
  rintro ⟨sameAnchor, _⟩
  rcases onDrive with ⟨letter, isDrive⟩
  rw [isDrive, anchor_blobDir] at sameAnchor
  cases sameAnchor

theorem members_stay_of_confined
    (confined : materializer.Confined (fun _ => false) delivery)
    {staged : StagedMember}
    (isStaged : staged ∈ materializer.stagedMembers delivery)
    (isDirectory : staged.member.rootIsFile = false) :
    ∀ component ∈ relativeComponents staged.member.relativePath,
      LexicalPath.Stays materializer.platform component := by
  intro component member
  by_contra leaves
  rcases mem_stagedMembers isStaged with ⟨sent, isSent⟩
  have isJoined := (stageMember_ok isSent).2.2 isDirectory
  have onDrive := drive_foldlM isJoined (Or.inr ⟨component, member, leaves⟩)
  apply not_strictlyBelow_of_drive onDrive
  apply confined.directory
  unfold directoryTargets
  have isTarget := List.mem_map_of_mem (f := StagedMember.target) isStaged
  exact List.mem_append_left _ (List.mem_append_left _
    (List.mem_append_right _ isTarget))

theorem roots_stay_of_confined
    (confined : materializer.Confined (fun _ => false) delivery)
    {root : DirectoryRoot}
    (isPromoted : root ∈ materializer.promotedRoots delivery) :
    LexicalPath.Stays materializer.platform root.name.text := by
  by_contra leaves
  have few : (materializer.promotedRoots delivery).length ≤
      PayloadCodec.maxBlobRefs := length_promotedRoots
  unfold PayloadCodec.maxBlobRefs at few
  have canAssign : ∃ chosen, materializer.assignDestinations (fun _ => false)
      (materializer.join materializer.blobDir
        (sanitizePathSegment delivery.receiverEntryId))
      [] (materializer.promotedRoots delivery) = .ok chosen := by
    apply exists_assignDestinations
    rw [List.length_nil]
    omega
  rcases canAssign with ⟨chosen, isAssigned⟩
  have paired := forall₂_assignDestinations isAssigned
  rcases PartialMap.exists_of_forall₂ paired.flip isPromoted with
    ⟨destination, inChosen, inUse, isResolved⟩
  have onDrive := drive_of_resolve leaves isResolved
  apply not_strictlyBelow_of_drive onDrive
  apply confined.directory
  unfold directoryTargets destinations
  rw [isAssigned]
  exact List.mem_append_left _ (List.mem_append_right _ inChosen)

end Confinement

end FileCacheBlobMaterializer

open FileCacheBlobMaterializer in
/-- Whatever exists on the disk, what the peer sends stays confined, exactly
on Unix and for the deliveries without a drive in a name. -/
theorem delivery_confined_iff (materializer : FileCacheBlobMaterializer)
    (delivery : Delivery) :
    (∀ pathExists, materializer.Confined pathExists delivery) ↔
      materializer.platform = .unix ∨ materializer.DriveFree delivery := by
  constructor
  · intro confined
    by_cases isUnix : materializer.platform = .unix
    · exact Or.inl isUnix
    · right
      constructor
      · intro staged isStaged isDirectory component member
        have stays := members_stay_of_confined (confined _) isStaged
          isDirectory component member
        exact stays.resolve_left isUnix
      · intro root isPromoted
        have stays := roots_stay_of_confined (confined _) isPromoted
        exact stays.resolve_left isUnix
  · rintro (isUnix | driveFree) pathExists
    · exact confined_of_stays (fun _ _ _ _ _ => Or.inl isUnix)
        fun _ _ => Or.inl isUnix
    · exact confined_of_stays
        (fun staged isStaged isDirectory component member =>
          Or.inr (driveFree.members staged isStaged isDirectory component
            member))
        fun root isPromoted => Or.inr (driveFree.roots root isPromoted)

namespace DriveSample

/-- A cache on drive `C`; a file name is what follows the last separator. -/
def materializer : FileCacheBlobMaterializer where
  platform := .windows
  fileName := fun text =>
    (text.toList.splitOn '\\').getLast?.map String.ofList
  cacheRoot := "C:\\"
  cachePath := ["cache"]

/-- A directory `d` whose only member is `D:x`. -/
def manifest : InboundFileSetManifest where
  members := [{
    rootIndex := 0
    rootName := "d"
    rootIsFile := false
    relativePath := "D:x"
    kind := .file
    blobRefIndex := some 0 }]

def delivery : Delivery where
  receiverEntryId := "e"
  blobRefs := [⟨[], "s", none, none, 1, none⟩]
  manifest := some manifest
  fewMembers := by
    intro sent isSent
    cases isSent
    decide

end DriveSample

open FileCacheBlobMaterializer in
theorem DriveSample.delivery_escapes :
    ¬ DriveSample.materializer.Confined (fun _ => false)
      DriveSample.delivery := by
  intro confined
  have isTarget : LexicalPath.mk (.drive 'D') ["x"] ∈
      DriveSample.materializer.directoryTargets (fun _ => false)
        DriveSample.delivery := by
    decide +kernel
  exact not_strictlyBelow_of_drive ⟨'D', rfl⟩
    (confined.directory _ isTarget)

end OpenClipboard.InboundTargets
