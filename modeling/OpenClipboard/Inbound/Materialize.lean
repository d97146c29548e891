import OpenClipboard.Core.ImageFile
import OpenClipboard.Library.ErasedPositions
import OpenClipboard.Outbound.Publish

/-!
# Materializing what was received

The blobs of a delivery are fetched one after another: first those that hold
the bytes of a representation, then the free-standing files.  The first fetch
that is cancelled or fails ends the loop it is in, and what has arrived is kept
as a partial snapshot.
-/

namespace OpenClipboard.InboundMaterialize

open Text

structure MissingFileRef where
  filename : String
  sizeBytes : Nat
  deriving DecidableEq, Repr

structure MaterializeResult where
  snapshot : SystemClipboardSnapshot
  missing : List MissingFileRef
  isPartial : Bool

def MaterializeResult.complete (snapshot : SystemClipboardSnapshot) :
    MaterializeResult :=
  ⟨snapshot, [], false⟩

structure AbsolutePath where
  path : PathBuf
  absolute : path.isAbsolute = true
  deriving DecidableEq

inductive FetchError where
  | cancelled
  | failed (message : String)
  deriving DecidableEq, Repr

/-- The ports of one call.  Blobs are numbered by their place among the blobs
of their stage; a target is the path that was reserved for a file, or its path
in the cache. -/
structure MaterializeEnv where
  fetchBlob : Nat → Except FetchError (List UInt8)
  fetchBlobToPath : Nat → Except FetchError Digest
  targetPath : Nat → Except String AbsolutePath
  /-- `Url::from_file_path`, which takes every absolute path. -/
  fromFilePath : AbsolutePath → String
  isPlain : ∀ path, fromFilePath path ≠ "" ∧
    ∀ c ∈ (fromFilePath path).toList, isWhitespace c = false
  fileLength : PathBuf → Option UInt64
  fromDevice : String
  newId : String
  materializeDirectory : SystemClipboardSnapshot → InboundFileSetManifest →
    Except String MaterializeResult

/-! ## Representations -/

def setInlineBytes (rep : ObservedClipboardRepresentation)
    (bytes : List UInt8) : Option ObservedClipboardRepresentation :=
  match rep.source with
  | .inline _ => some { rep with source := .inline bytes, cachedHash := none }
  | .localFile _ _ => none

def isFileListRepresentation (rep : ObservedClipboardRepresentation) : Bool :=
  rep.mime.any (fun mime => eqIgnoreAsciiCase mime.asStr "text/uri-list" ||
      eqIgnoreAsciiCase mime.asStr "file/uri-list") ||
    eqIgnoreAsciiCase rep.formatId.asStr "files" ||
    eqIgnoreAsciiCase rep.formatId.asStr "public.file-url"

/-- A MIME type with one of the prefixes or among the names, or a format. -/
def supports (prefixes mimes formats : List String)
    (rep : ObservedClipboardRepresentation) : Bool :=
  rep.mime.any (fun mime => prefixes.any (startsWith mime.asStr) ||
      mimes.any (eqIgnoreAsciiCase mime.asStr)) ||
    formats.any (eqIgnoreAsciiCase rep.formatId.asStr)

def isSupportedRepresentation : ObservedClipboardRepresentation → Bool :=
  supports ["text/", "image/"] ["file/uri-list", "text/uri-list"]
    ["text", "rtf", "html", "files", "image", "public.utf8-plain-text",
      "public.text", "NSStringPboardType"]

def hasSupportedRepresentation (snapshot : SystemClipboardSnapshot) : Bool :=
  snapshot.representations.any isSupportedRepresentation

def supportedForCapture : ObservedClipboardRepresentation → Bool :=
  supports ["text/", "image/"] ["file/uri-list", "text/uri-list"]
    ["text", "rtf", "html", "files", "image", "public.utf8-plain-text",
      "public.text", "NSStringPboardType"]

/-! ## The file list -/

def upperHexDigit (value : Nat) : Char :=
  (Nat.digitChar value).toUpper

def isUnreserved (c : Char) : Bool :=
  c.isAlphanum || c == '-' || c == '_' || c == '.' || c == '~'

def encodeByte (byte : UInt8) : List Char :=
  if byte < 0x80 && isUnreserved (Char.ofNat byte.toNat) then
    [Char.ofNat byte.toNat]
  else
    ['%', upperHexDigit (byte.toNat / 16), upperHexDigit (byte.toNat % 16)]

def encodePathSegment (text : String) : String :=
  String.ofList ((asBytes text).flatMap encodeByte)

def formatMissingUri (missing : MissingFileRef) : String :=
  "uniclip-missing:///" ++ encodePathSegment missing.filename ++ "?size=" ++
    missing.sizeBytes.repr ++ "&reason=cancelled"

/-- `join("\r\n")`. -/
def joinLines : List String → String
  | [] => ""
  | [line] => line
  | line :: next :: rest => line ++ "\r\n" ++ joinLines (next :: rest)

section Materialize

variable (env : MaterializeEnv)

/-- The files completed, and then the missing ones. -/
def uriLines (completed : List AbsolutePath)
    (missing : List MissingFileRef) : List String :=
  completed.map env.fromFilePath ++ missing.map formatMissingUri

def filesRep (body : String) : ObservedClipboardRepresentation :=
  .new env.newId "files" (some "text/uri-list") (asBytes body)

def cancelledRep (missing : List MissingFileRef) :
    ObservedClipboardRepresentation :=
  .new env.newId "text" (some "text/plain") <| asBytes <|
    "[Cancelled transfer from " ++ env.fromDevice ++ "]\n" ++
      String.join (missing.map fun file => file.filename ++ "\n")

/-- A file list gets a new body, where it is held in memory. -/
def rewriteFileList (body : String) (rep : ObservedClipboardRepresentation) :
    ObservedClipboardRepresentation :=
  if isFileListRepresentation rep then
    (setInlineBytes rep (asBytes body)).getD rep
  else
    rep

def isRewritten (body : String) (rep : ObservedClipboardRepresentation) :
    Bool :=
  isFileListRepresentation rep && (setInlineBytes rep (asBytes body)).isSome

def putFileList (body : String)
    (reps : List ObservedClipboardRepresentation) :
    List ObservedClipboardRepresentation :=
  if reps.any (isRewritten body) then reps.map (rewriteFileList body)
  else reps.map (rewriteFileList body) ++ [filesRep env body]

/-- A text that stands for the transfer, where nothing else is supported. -/
def ensureSupported (missing : List MissingFileRef)
    (reps : List ObservedClipboardRepresentation) :
    List ObservedClipboardRepresentation :=
  if reps.any supportedForCapture then reps
  else reps ++ [cancelledRep env missing]

def finalizePartial (snapshot : SystemClipboardSnapshot)
    (incompleteRepIdxs : List Nat) (completed : List AbsolutePath)
    (missing : List MissingFileRef) : MaterializeResult :=
  let body := joinLines (uriLines env completed missing)
  let kept := ErasedPositions.erase snapshot.representations incompleteRepIdxs
  MaterializeResult.mk
    { snapshot with representations :=
        ensureSupported env missing (putFileList env body kept) }
    missing true

/-! ## The two stages -/

inductive RepresentationStage where
  | failed (message : String)
  | stopped (representations : List ObservedClipboardRepresentation)
      (incompleteRepIdxs : List Nat)
  | hydrated (representations : List ObservedClipboardRepresentation)

/-- The blobs of representations, from the one at `position` on. -/
def hydrateFrom : Nat → List ObservedClipboardRepresentation → List Nat →
    RepresentationStage
  | _, reps, [] => .hydrated reps
  | position, reps, idx :: rest =>
      match env.fetchBlob position with
      | .error _ => .stopped reps (idx :: rest)
      | .ok plaintext =>
          match reps[idx]? with
          | none => .failed (
              s!"materialize: representation_index {idx} out of bounds " ++
                s!"(snapshot has {reps.length} reps)")
          | some rep =>
              match setInlineBytes rep plaintext with
              | none => .failed ("materialize: failed to set inline bytes: " ++
                  "set_inline_bytes not supported for LocalFile source")
              | some hydrated =>
                  hydrateFrom (position + 1) (reps.set idx hydrated) rest

inductive FileStage where
  | failed (message : String)
  | stopped (completed : List AbsolutePath) (missing : List V3BlobRef)
  | fetched (completed : List AbsolutePath) (digests : List Digest)

/-- The file blobs, from the one at `position` on. -/
def fetchFilesFrom : Nat → List AbsolutePath → List Digest → List V3BlobRef →
    FileStage
  | _, paths, digests, [] => .fetched paths digests
  | position, paths, digests, blobRef :: rest =>
      match env.targetPath position with
      | .error message => .failed message
      | .ok path =>
          match env.fetchBlobToPath position with
          | .error _ => .stopped paths (blobRef :: rest)
          | .ok digest =>
              fetchFilesFrom (position + 1) (paths ++ [path])
                (digests ++ [digest]) rest

def missingFileRef (blobRef : V3BlobRef) : MissingFileRef where
  filename := blobRef.filename.getD ("blob-" ++ blobRef.entryId)
  sizeBytes := blobRef.sizeBytes

def localFileUriList (paths : List AbsolutePath) : String :=
  String.join (paths.map fun path => env.fromFilePath path ++ "\n")

def imageFromFiles (paths : List AbsolutePath) :
    Option ObservedClipboardRepresentation :=
  paths.findSome? fun path =>
    match imageFileMimeFromPath path.path, env.fileLength path.path with
    | some mime, some length =>
        if length = 0 then none
        else some (.newLocalFile env.newId "image-from-file" (some mime)
          path.path length)
    | _, _ => none

def rewriteOrFail (uriList : String) (rep : ObservedClipboardRepresentation) :
    Except String ObservedClipboardRepresentation :=
  if isFileListRepresentation rep then
    match setInlineBytes rep (asBytes uriList) with
    | some listed => .ok listed
    | none => .error ("materialize: failed to rewrite files rep: " ++
        "set_inline_bytes not supported for LocalFile source")
  else
    .ok rep

def completeFiles (snapshot : SystemClipboardSnapshot)
    (paths : List AbsolutePath) (digests : List Digest) :
    Except String MaterializeResult :=
  let uriList := localFileUriList env paths
  match snapshot.representations.mapM (rewriteOrFail uriList) with
  | .error message => .error message
  | .ok reps =>
      let listed :=
        if reps.any isFileListRepresentation then reps
        else reps ++ [filesRep env uriList]
      let hasImage := listed.any fun rep =>
        rep.mime.any fun mime =>
          startsWith (toAsciiLowercase mime.asStr) "image/"
      let representations :=
        if hasImage then listed
        else listed ++ (imageFromFiles env paths).toList
      .ok (.complete { snapshot with
        representations := representations
        fileContentDigests :=
          if digests = [] then snapshot.fileContentDigests else digests })

def repIndices (blobRefs : List V3BlobRef) : List Nat :=
  blobRefs.filterMap V3BlobRef.representationIndex

def fileRefs (blobRefs : List V3BlobRef) : List V3BlobRef :=
  blobRefs.filter fun blobRef => blobRef.representationIndex.isNone

def materialize (snapshot : SystemClipboardSnapshot)
    (blobRefs : List V3BlobRef) (manifest : Option InboundFileSetManifest) :
    Except String MaterializeResult :=
  if blobRefs.isEmpty && manifest.isNone then
    .ok (.complete snapshot)
  else
    match hydrateFrom env 0 snapshot.representations (repIndices blobRefs) with
    | .failed message => .error message
    | .stopped reps incompleteRepIdxs =>
        if manifest.isSome then
          .error "directory representation blob fetch failed"
        else
          .ok (finalizePartial env { snapshot with representations := reps }
            incompleteRepIdxs [] ((fileRefs blobRefs).map missingFileRef))
    | .hydrated reps =>
        let snapshot := { snapshot with representations := reps }
        match manifest with
        | some manifest => env.materializeDirectory snapshot manifest
        | none =>
            if (fileRefs blobRefs).isEmpty then
              .ok (.complete snapshot)
            else
              match fetchFilesFrom env 0 [] [] (fileRefs blobRefs) with
              | .failed message => .error message
              | .stopped completed missing =>
                  .ok (finalizePartial env snapshot [] completed
                    (missing.map missingFileRef))
              | .fetched paths digests =>
                  completeFiles env snapshot paths digests

end Materialize

/-! ## The list reads back -/

/-- A line that `lines` gives back as it is. -/
structure IsPlainLine (line : String) : Prop where
  nonempty : line ≠ ""
  noWhitespace : ∀ c ∈ line.toList, isWhitespace c = false

theorem lines_append_line {line text : String} (isPlain : IsPlainLine line) :
    lines (line ++ "\r\n" ++ text) = line :: lines text := by
  have isSplit : (line ++ "\r\n" ++ text).toList.splitOn '\n' =
      (line.toList ++ ['\r']) :: text.toList.splitOn '\n' := by
    have isChars : (line ++ "\r\n" ++ text).toList =
        (line.toList ++ ['\r']) ++ '\n' :: text.toList := by
      simp
    rw [isChars]
    apply List.splitOnP_append_cons_of_forall_mem
    · intro c member
      rw [beq_eq_false_iff_ne]
      intro isNewline
      rw [isNewline] at member
      rcases List.mem_append.mp member with inLine | isReturn
      · have notSpace := isPlain.noWhitespace '\n' inLine
        exact absurd notSpace (by decide)
      · exact absurd isReturn (by decide)
    · decide
  have later : text.toList.splitOn '\n' ≠ [] := List.splitOn_ne_nil _ _
  have stripped : stripCarriageReturn (line.toList ++ ['\r']) =
      line.toList := by
    simp [stripCarriageReturn]
  unfold lines
  dsimp only
  rw [isSplit, List.dropLast_cons_of_ne_nil later,
    List.getLast?_cons_of_ne_nil later]
  simp [stripped]

theorem lines_joinLines {texts : List String}
    (plain : ∀ line ∈ texts, IsPlainLine line) :
    lines (joinLines texts) = texts := by
  induction texts with
  | nil => decide
  | cons line rest inductionHypothesis =>
      have isPlain := plain line List.mem_cons_self
      have restPlain : ∀ other ∈ rest, IsPlainLine other :=
        fun other member => plain other (List.mem_cons_of_mem _ member)
      cases rest with
      | nil => exact lines_of_noWhitespace isPlain.nonempty isPlain.noWhitespace
      | cons next others =>
          rw [joinLines, lines_append_line isPlain,
            inductionHypothesis restPlain]

theorem noWhitespace_of_isUnreserved {c : Char}
    (unreserved : isUnreserved c = true) : isWhitespace c = false := by
  have bounds : 0x21 ≤ c.toNat ∧ c.toNat ≤ 0x7E := by
    simp only [isUnreserved, Bool.or_eq_true, beq_iff_eq] at unreserved
    rcases unreserved with (((isAlphanum | rfl) | rfl) | rfl) | rfl
    · exact printable_of_isAlphanum isAlphanum
    · decide
    · decide
    · decide
    · decide
  exact noWhitespace_of_printable bounds.1 bounds.2

theorem noWhitespace_upperHexDigit {value : Nat} (small : value < 16) :
    isWhitespace (upperHexDigit value) = false := by
  have everyDigit : ∀ digit < 16,
      isWhitespace (upperHexDigit digit) = false := by
    decide
  exact everyDigit value small

theorem noWhitespace_encodeByte (byte : UInt8) :
    ∀ c ∈ encodeByte byte, isWhitespace c = false := by
  intro c member
  have small := byte.toNat_lt
  unfold encodeByte at member
  split at member
  · rename_i isSafe
    rw [Bool.and_eq_true] at isSafe
    rw [List.mem_singleton] at member
    rw [member]
    exact noWhitespace_of_isUnreserved isSafe.2
  · simp only [List.mem_cons, List.not_mem_nil, or_false] at member
    rcases member with isPercent | isHigh | isLow
    · rw [isPercent]
      decide
    · rw [isHigh]
      exact noWhitespace_upperHexDigit (by omega)
    · rw [isLow]
      exact noWhitespace_upperHexDigit (by omega)

theorem isPlainLine_formatMissingUri (missing : MissingFileRef) :
    IsPlainLine (formatMissingUri missing) := by
  have schemeClean : ∀ c ∈ "uniclip-missing:///".toList,
      isWhitespace c = false := by
    simp [isWhitespace]
  have queryClean : ∀ c ∈ "?size=".toList, isWhitespace c = false := by
    simp [isWhitespace]
  have reasonClean : ∀ c ∈ "&reason=cancelled".toList,
      isWhitespace c = false := by
    simp [isWhitespace]
  constructor
  · intro isEmpty
    unfold formatMissingUri at isEmpty
    have lastEmpty := (String.append_eq_empty_iff.mp isEmpty).2
    exact absurd lastEmpty (by decide)
  · intro c member
    unfold formatMissingUri at member
    rw [String.toList_append, String.toList_append, String.toList_append,
      String.toList_append] at member
    rcases List.mem_append.mp member with upToDigits | isReason
    · rcases List.mem_append.mp upToDigits with upToQuery | isDigit
      · rcases List.mem_append.mp upToQuery with upToName | isQuery
        · rcases List.mem_append.mp upToName with isScheme | inName
          · exact schemeClean c isScheme
          · unfold encodePathSegment at inName
            rw [String.toList_ofList] at inName
            rcases List.mem_flatMap.mp inName with ⟨byte, _, inByte⟩
            exact noWhitespace_encodeByte byte c inByte
        · exact queryClean c isQuery
      · rw [Nat.toList_repr] at isDigit
        exact noWhitespace_of_isDigit
          (Nat.isDigit_of_mem_toDigits (by decide) (by decide) isDigit)
    · exact reasonClean c isReason

variable {rep : ObservedClipboardRepresentation}

section Accounts

variable {env : MaterializeEnv}

theorem lines_uriLines (env : MaterializeEnv) (completed : List AbsolutePath)
    (missing : List MissingFileRef) :
    lines (joinLines (uriLines env completed missing)) =
      uriLines env completed missing := by
  apply lines_joinLines
  intro line member
  unfold uriLines at member
  rcases List.mem_append.mp member with isCompleted | isMissing
  · rcases List.mem_map.mp isCompleted with ⟨path, _, isLine⟩
    rw [← isLine]
    exact ⟨(env.isPlain path).1, (env.isPlain path).2⟩
  · rcases List.mem_map.mp isMissing with ⟨file, _, isLine⟩
    rw [← isLine]
    exact isPlainLine_formatMissingUri file

/-! ## Rewriting -/

theorem isFileList_setInlineBytes {rep listed : ObservedClipboardRepresentation}
    {bytes : List UInt8} (isSet : setInlineBytes rep bytes = some listed) :
    isFileListRepresentation listed = isFileListRepresentation rep ∧
      listed.inlineBytes = some bytes := by
  unfold setInlineBytes at isSet
  split at isSet
  · cases isSet
    exact ⟨rfl, rfl⟩
  · cases isSet

theorem isFileList_rewriteFileList (body : String)
    (rep : ObservedClipboardRepresentation) :
    isFileListRepresentation (rewriteFileList body rep) =
      isFileListRepresentation rep := by
  unfold rewriteFileList
  split
  · cases isSet : setInlineBytes rep (asBytes body) with
    | none => rfl
    | some listed => exact (isFileList_setInlineBytes isSet).1
  · rfl

theorem inlineBytes_rewriteFileList {body : String} {bytes : List UInt8}
    (isList : isFileListRepresentation (rewriteFileList body rep) = true)
    (inMemory : (rewriteFileList body rep).inlineBytes = some bytes) :
    bytes = asBytes body := by
  rw [isFileList_rewriteFileList] at isList
  unfold rewriteFileList at inMemory
  rw [if_pos isList] at inMemory
  cases isSet : setInlineBytes rep (asBytes body) with
  | none =>
      rw [isSet, Option.getD_none] at inMemory
      unfold setInlineBytes at isSet
      split at isSet
      · cases isSet
      · rename_i isFile
        rw [ObservedClipboardRepresentation.inlineBytes, isFile] at inMemory
        cases inMemory
  | some listed =>
      rw [isSet, Option.getD_some, (isFileList_setInlineBytes isSet).2]
        at inMemory
      exact (Option.some.inj inMemory).symm

theorem isFileList_filesRep (body : String) :
    isFileListRepresentation (filesRep env body) = true := by
  unfold isFileListRepresentation filesRep
  have isFiles : eqIgnoreAsciiCase "files" "files" = true := by decide
  simp [ObservedClipboardRepresentation.new, isFiles]

theorem isFileList_cancelledRep (missing : List MissingFileRef) :
    isFileListRepresentation (cancelledRep env missing) = false := by
  have notList : (eqIgnoreAsciiCase "text/plain" "text/uri-list" = false ∧
      eqIgnoreAsciiCase "text/plain" "file/uri-list" = false) ∧
      eqIgnoreAsciiCase "text" "files" = false ∧
      eqIgnoreAsciiCase "text" "public.file-url" = false := by
    decide
  simp [isFileListRepresentation, cancelledRep,
    ObservedClipboardRepresentation.new, notList]

theorem supported_cancelledRep (missing : List MissingFileRef) :
    supportedForCapture (cancelledRep env missing) = true := by
  have isText : startsWith "text/plain" "text/" = true := by decide
  simp [supportedForCapture, supports, cancelledRep,
    ObservedClipboardRepresentation.new, isText]

theorem inlineBytes_of_isRewritten {body : String}
    (rewritten : isRewritten body rep = true) :
    isFileListRepresentation (rewriteFileList body rep) = true ∧
      (rewriteFileList body rep).inlineBytes = some (asBytes body) := by
  unfold isRewritten at rewritten
  rcases (Bool.and_eq_true _ _).mp rewritten with ⟨isList, inMemory⟩
  refine ⟨(isFileList_rewriteFileList body rep).trans isList, ?_⟩
  rcases Option.isSome_iff_exists.mp inMemory with ⟨listed, isSet⟩
  unfold rewriteFileList
  rw [if_pos isList, isSet, Option.getD_some]
  exact (isFileList_setInlineBytes isSet).2

theorem putFileList_spec (env : MaterializeEnv) (body : String)
    (reps : List ObservedClipboardRepresentation) :
    (∃ appended, putFileList env body reps =
      reps.map (rewriteFileList body) ++ appended ∧
        ∀ rep ∈ appended, rep = filesRep env body) ∧
      ∃ rep ∈ putFileList env body reps,
        isFileListRepresentation rep = true ∧
          rep.inlineBytes = some (asBytes body) := by
  unfold putFileList
  by_cases found : reps.any (isRewritten body) = true
  · rw [if_pos found]
    refine ⟨⟨[], (List.append_nil _).symm, by simp⟩, ?_⟩
    rcases List.any_eq_true.mp found with ⟨rep, member, rewritten⟩
    exact ⟨rewriteFileList body rep, List.mem_map_of_mem member,
      inlineBytes_of_isRewritten rewritten⟩
  · rw [if_neg found]
    refine ⟨⟨_, rfl, fun rep member => List.mem_singleton.mp member⟩, ?_⟩
    refine ⟨filesRep env body, ?_, isFileList_filesRep body, rfl⟩
    exact List.mem_append_right _ (List.mem_singleton_self _)

theorem ensureSupported_spec (env : MaterializeEnv)
    (missing : List MissingFileRef)
    (reps : List ObservedClipboardRepresentation) :
    (∃ appended, ensureSupported env missing reps = reps ++ appended ∧
      ∀ rep ∈ appended, rep = cancelledRep env missing) ∧
      (ensureSupported env missing reps).any supportedForCapture = true := by
  unfold ensureSupported
  by_cases supported : reps.any supportedForCapture = true
  · rw [if_pos supported]
    exact ⟨⟨[], (List.append_nil _).symm, by simp⟩, supported⟩
  · rw [if_neg supported]
    refine ⟨⟨_, rfl, fun rep member => List.mem_singleton.mp member⟩, ?_⟩
    rw [List.any_append, Bool.or_eq_true]
    right
    simp only [List.any_cons, supported_cancelledRep, Bool.true_or]

/-! ## What the partial snapshot holds -/

/-- A partial result accounts for every representation but the ones at the
positions `incomplete`, and for every file. -/
structure AccountsFor (env : MaterializeEnv)
    (hydrated : List ObservedClipboardRepresentation) (incomplete : List Nat)
    (completed : List AbsolutePath) (missing : List MissingFileRef)
    (result : MaterializeResult) : Prop where
  isPartial : result.isPartial = true
  missingFiles : result.missing = missing
  kept : ∃ appended, result.snapshot.representations =
      (ErasedPositions.kept incomplete 0 hydrated).map
        (rewriteFileList (joinLines (uriLines env completed missing))) ++
      appended ∧
    ∀ rep ∈ appended,
      rep = filesRep env (joinLines (uriLines env completed missing)) ∨
        rep = cancelledRep env missing
  hasList : ∃ rep ∈ result.snapshot.representations,
    isFileListRepresentation rep = true ∧ rep.inlineBytes.isSome = true
  lists : ∀ rep ∈ result.snapshot.representations, ∀ bytes,
    isFileListRepresentation rep = true → rep.inlineBytes = some bytes →
      ∃ body, bytes = asBytes body ∧
        lines body = uriLines env completed missing
  supported : hasSupportedRepresentation result.snapshot = true

theorem finalizePartial_accounts (snapshot : SystemClipboardSnapshot)
    (incomplete : List Nat) (completed : List AbsolutePath)
    (missing : List MissingFileRef) :
    AccountsFor env snapshot.representations incomplete completed missing
      (finalizePartial env snapshot incomplete completed missing) := by
  have isKept := ErasedPositions.erase_eq_kept snapshot.representations
    incomplete
  have isRead := lines_uriLines env completed missing
  unfold finalizePartial
  dsimp only
  rw [isKept]
  generalize isWhole :
    ErasedPositions.kept incomplete 0 snapshot.representations = kept
  generalize isBody : joinLines (uriLines env completed missing) = body
    at isRead
  rcases putFileList_spec env body kept with
    ⟨⟨lists, isListed, areLists⟩, listed, inListed, isList, listBytes⟩
  rcases ensureSupported_spec env missing (putFileList env body kept)
    with ⟨⟨fallbacks, isFinal, areFallbacks⟩, supported⟩
  have members : ∀ rep ∈ ensureSupported env missing
      (putFileList env body kept),
      (∃ original ∈ kept, rep = rewriteFileList body original) ∨
        rep = filesRep env body ∨ rep = cancelledRep env missing := by
    intro rep member
    rw [isFinal, isListed] at member
    rcases List.mem_append.mp member with earlier | isFallback
    · rcases List.mem_append.mp earlier with isKeptRep | isNew
      · rcases List.mem_map.mp isKeptRep with ⟨original, inKept, isRep⟩
        exact Or.inl ⟨original, inKept, isRep.symm⟩
      · exact Or.inr (Or.inl (areLists rep isNew))
    · exact Or.inr (Or.inr (areFallbacks rep isFallback))
  refine ⟨rfl, rfl, ?_, ?_, ?_, supported⟩
  · refine ⟨lists ++ fallbacks, ?_, ?_⟩
    · dsimp only
      rw [isWhole, isBody, isFinal, isListed, List.append_assoc]
    · intro rep member
      rw [isBody]
      rcases List.mem_append.mp member with isNew | isFallback
      · exact Or.inl (areLists rep isNew)
      · exact Or.inr (areFallbacks rep isFallback)
  · refine ⟨listed, ?_, isList, ?_⟩
    · dsimp only
      rw [isFinal]
      exact List.mem_append_left _ inListed
    · rw [listBytes]
      rfl
  · intro rep member bytes isListRep inMemory
    refine ⟨body, ?_, isRead⟩
    rcases members rep member with ⟨original, _, isRep⟩ | isNew | isFallback
    · rw [isRep] at isListRep inMemory
      exact inlineBytes_rewriteFileList isListRep inMemory
    · rw [isNew] at inMemory
      exact (Option.some.inj inMemory).symm
    · rw [isFallback, isFileList_cancelledRep] at isListRep
      cases isListRep

/-! ## Where the fetching stops -/

/-- The representations after the blobs `done`, the first of which is blob
`start`: the last blob of a representation gives its bytes. -/
structure Hydrated (env : MaterializeEnv) (start : Nat) (done : List Nat)
    (before after : List ObservedClipboardRepresentation) : Prop where
  length : after.length = before.length
  untouched : ∀ idx, idx ∉ done → after[idx]? = before[idx]?
  fetched : ∀ (earlier later : List Nat) idx,
    done = earlier ++ idx :: later → idx ∉ later →
      ∃ rep bytes, before[idx]? = some rep ∧
        env.fetchBlob (start + earlier.length) = .ok bytes ∧
        after[idx]? =
          some { rep with source := .inline bytes, cachedHash := none }

def IsInMemory (reps : List ObservedClipboardRepresentation) (idx : Nat) :
    Prop :=
  ∃ rep, reps[idx]? = some rep ∧ rep.inlineBytes.isSome = true

theorem setInlineBytes_of_inMemory (inMemory : rep.inlineBytes.isSome = true)
    (bytes : List UInt8) :
    setInlineBytes rep bytes =
      some { rep with source := .inline bytes, cachedHash := none } := by
  unfold ObservedClipboardRepresentation.inlineBytes at inMemory
  unfold setInlineBytes
  split
  · rfl
  · rename_i isFile
    rw [isFile] at inMemory
    cases inMemory

theorem isInMemory_set {reps : List ObservedClipboardRepresentation}
    {idx other : Nat} (repInMemory : rep.inlineBytes.isSome = true)
    (inMemory : IsInMemory reps other) :
    IsInMemory (reps.set idx rep) other := by
  rcases inMemory with ⟨original, isThere, originalInMemory⟩
  have inRange := (List.getElem?_eq_some_iff.mp isThere).1
  by_cases isSame : idx = other
  · refine ⟨rep, ?_, repInMemory⟩
    rw [isSame, List.getElem?_set_self inRange]
  · refine ⟨original, ?_, originalInMemory⟩
    rw [List.getElem?_set_ne isSame]
    exact isThere

theorem hydrateFrom_append {start : Nat} {done : List Nat}
    {reps : List ObservedClipboardRepresentation} (rest : List Nat)
    (arrive : ∀ offset < done.length, ∃ bytes,
      env.fetchBlob (start + offset) = .ok bytes)
    (inMemory : ∀ idx ∈ done, IsInMemory reps idx) :
    ∃ after, Hydrated env start done reps after ∧
      hydrateFrom env start reps (done ++ rest) =
        hydrateFrom env (start + done.length) after rest := by
  induction done generalizing start reps with
  | nil =>
      refine ⟨reps, ⟨rfl, fun _ _ => rfl, ?_⟩, rfl⟩
      intro earlier later idx isDone
      cases earlier with
      | nil => cases isDone
      | cons first others => cases isDone
  | cons idx done inductionHypothesis =>
      rcases arrive 0 (Nat.zero_lt_succ _) with ⟨bytes, isFetched⟩
      rw [Nat.add_zero] at isFetched
      rcases inMemory idx List.mem_cons_self with ⟨rep, isThere, repInMemory⟩
      have isSet := setInlineBytes_of_inMemory repInMemory bytes
      have inRange := (List.getElem?_eq_some_iff.mp isThere).1
      generalize isHydrated : ({ rep with
        source := ClipboardPayloadSource.inline bytes, cachedHash := none } :
          ObservedClipboardRepresentation) = hydrated at isSet
      have hydratedInMemory : hydrated.inlineBytes.isSome = true := by
        rw [← isHydrated]
        rfl
      have laterArrive : ∀ offset < done.length, ∃ bytes,
          env.fetchBlob (start + 1 + offset) = .ok bytes := by
        intro offset inDone
        have arrives := arrive (offset + 1)
          (by rw [List.length_cons]; omega)
        rw [show start + (offset + 1) = start + 1 + offset by omega] at arrives
        exact arrives
      have laterInMemory : ∀ other ∈ done,
          IsInMemory (reps.set idx hydrated) other := fun other member =>
        isInMemory_set hydratedInMemory
          (inMemory other (List.mem_cons_of_mem _ member))
      rcases inductionHypothesis laterArrive laterInMemory with
        ⟨after, isAfter, goesOn⟩
      refine ⟨after, ?_, ?_⟩
      · constructor
        · rw [isAfter.length, List.length_set]
        · intro other notDone
          rcases not_or.mp (mt List.mem_cons.mpr notDone) with
            ⟨notIdx, notLater⟩
          rw [isAfter.untouched other notLater,
            List.getElem?_set_ne (Ne.symm notIdx)]
        · intro earlier later other isDone notLater
          cases earlier with
          | nil =>
              rcases List.cons.inj isDone with ⟨isOther, isLater⟩
              rw [← isLater, ← isOther] at notLater
              refine ⟨rep, bytes, ?_, isFetched, ?_⟩
              · rw [← isOther]
                exact isThere
              · rw [← isOther, isAfter.untouched idx notLater,
                  List.getElem?_set_self inRange, isHydrated]
          | cons first others =>
              rcases List.cons.inj isDone with ⟨isFirst, isLater⟩
              rcases isAfter.fetched others later other isLater notLater with
                ⟨before, otherBytes, wasThere, wasFetched, isNow⟩
              have position : start + 1 + others.length =
                  start + (first :: others).length := by
                rw [List.length_cons]
                omega
              rw [position] at wasFetched
              by_cases isSame : idx = other
              · rw [isSame, List.getElem?_set_self (isSame ▸ inRange)]
                  at wasThere
                cases wasThere
                refine ⟨rep, otherBytes, isSame ▸ isThere, wasFetched, ?_⟩
                rw [isNow, ← isHydrated]
              · rw [List.getElem?_set_ne isSame] at wasThere
                exact ⟨before, otherBytes, wasThere, wasFetched, isNow⟩
      · rw [List.cons_append, hydrateFrom, isFetched]
        dsimp only
        rw [isThere]
        dsimp only
        rw [isSet]
        dsimp only
        rw [goesOn, List.length_cons,
          show start + 1 + done.length = start + (done.length + 1) by omega]

/-- The representation blobs before the position arrive and are for
representations in memory; the one there does not arrive. -/
structure StopsAtRepresentation (env : MaterializeEnv)
    (snapshot : SystemClipboardSnapshot) (blobRefs : List V3BlobRef)
    (position : Nat) : Prop where
  inRange : position < (repIndices blobRefs).length
  arrive : ∀ earlier < position, ∃ bytes, env.fetchBlob earlier = .ok bytes
  inMemory : ∀ idx ∈ (repIndices blobRefs).take position,
    IsInMemory snapshot.representations idx
  stops : ∃ err, env.fetchBlob position = .error err

/-- The representation blobs all arrive, and the files before the position do;
the one there does not. -/
structure StopsAtFile (env : MaterializeEnv)
    (snapshot : SystemClipboardSnapshot) (blobRefs : List V3BlobRef)
    (completed : List AbsolutePath) : Prop where
  arrive : ∀ earlier < (repIndices blobRefs).length, ∃ bytes,
    env.fetchBlob earlier = .ok bytes
  inMemory : ∀ idx ∈ repIndices blobRefs,
    IsInMemory snapshot.representations idx
  inRange : completed.length < (fileRefs blobRefs).length
  targets : ∀ earlier path, completed[earlier]? = some path →
    env.targetPath earlier = .ok path ∧
      ∃ digest, env.fetchBlobToPath earlier = .ok digest
  target : ∃ path, env.targetPath completed.length = .ok path
  stops : ∃ err, env.fetchBlobToPath completed.length = .error err

theorem fetchFilesFrom_stops {start : Nat} {completed : List AbsolutePath}
    {files : List V3BlobRef} (paths : List AbsolutePath)
    (digests : List Digest)
    (inRange : completed.length < files.length)
    (targets : ∀ earlier path, completed[earlier]? = some path →
      env.targetPath (start + earlier) = .ok path ∧
        ∃ digest, env.fetchBlobToPath (start + earlier) = .ok digest)
    (target : ∃ path, env.targetPath (start + completed.length) = .ok path)
    (stops : ∃ err,
      env.fetchBlobToPath (start + completed.length) = .error err) :
    fetchFilesFrom env start paths digests files =
      .stopped (paths ++ completed) (files.drop completed.length) := by
  induction completed generalizing start paths digests files with
  | nil =>
      cases files with
      | nil => cases inRange
      | cons blobRef rest =>
          rcases target with ⟨path, isTarget⟩
          rcases stops with ⟨err, isError⟩
          rw [List.length_nil, Nat.add_zero] at isTarget isError
          rw [fetchFilesFrom, isTarget]
          dsimp only
          rw [isError]
          simp
  | cons first others inductionHypothesis =>
      cases files with
      | nil => cases inRange
      | cons blobRef rest =>
          rcases targets 0 first rfl with ⟨isTarget, digest, isFetched⟩
          rw [Nat.add_zero] at isTarget isFetched
          have shift : start + (first :: others).length =
              start + 1 + others.length := by
            rw [List.length_cons]
            omega
          rw [shift] at target stops
          have later : ∀ earlier path, others[earlier]? = some path →
              env.targetPath (start + 1 + earlier) = .ok path ∧
                ∃ digest,
                  env.fetchBlobToPath (start + 1 + earlier) = .ok digest := by
            intro earlier path isThere
            have next := targets (earlier + 1) path isThere
            rw [show start + (earlier + 1) = start + 1 + earlier by omega]
              at next
            exact next
          have restStops := inductionHypothesis (paths ++ [first])
            (digests ++ [digest]) (Nat.lt_of_succ_lt_succ inRange) later target
            stops
          rw [fetchFilesFrom, isTarget]
          dsimp only
          rw [isFetched]
          dsimp only
          rw [restStops, List.append_assoc]
          rfl

theorem materialize_stopsAtRepresentation {snapshot : SystemClipboardSnapshot}
    {blobRefs : List V3BlobRef} {position : Nat}
    (stopsAt : StopsAtRepresentation env snapshot blobRefs position) :
    ∃ hydrated result,
      Hydrated env 0 ((repIndices blobRefs).take position)
        snapshot.representations hydrated ∧
      materialize env snapshot blobRefs none = .ok result ∧
      AccountsFor env hydrated ((repIndices blobRefs).drop position) []
        ((fileRefs blobRefs).map missingFileRef) result := by
  have inRange := stopsAt.inRange
  have isDone : ((repIndices blobRefs).take position).length = position := by
    rw [List.length_take]
    omega
  have arrive : ∀ offset < ((repIndices blobRefs).take position).length,
      ∃ bytes, env.fetchBlob (0 + offset) = .ok bytes := by
    intro offset before
    rw [Nat.zero_add]
    rw [isDone] at before
    exact stopsAt.arrive offset before
  rcases hydrateFrom_append ((repIndices blobRefs).drop position) arrive
    stopsAt.inMemory with ⟨hydrated, isHydrated, goesOn⟩
  rcases stopsAt.stops with ⟨err, isError⟩
  have isStopped : hydrateFrom env 0 snapshot.representations
      (repIndices blobRefs) =
        .stopped hydrated ((repIndices blobRefs).drop position) := by
    rw [List.take_append_drop, isDone, Nat.zero_add] at goesOn
    rw [goesOn, List.drop_eq_getElem_cons inRange, hydrateFrom, isError]
  have nonempty : blobRefs.isEmpty = false := by
    rw [List.isEmpty_eq_false_iff]
    intro isEmpty
    rw [isEmpty] at inRange
    cases inRange
  refine ⟨hydrated, _, isHydrated, ?_, finalizePartial_accounts
    { snapshot with representations := hydrated } _ [] _⟩
  unfold materialize
  rw [nonempty, isStopped]
  rfl

theorem materialize_stopsAtFile {snapshot : SystemClipboardSnapshot}
    {blobRefs : List V3BlobRef} {completed : List AbsolutePath}
    (stopsAt : StopsAtFile env snapshot blobRefs completed) :
    ∃ hydrated result,
      Hydrated env 0 (repIndices blobRefs) snapshot.representations hydrated ∧
      materialize env snapshot blobRefs none = .ok result ∧
      AccountsFor env hydrated [] completed
        (((fileRefs blobRefs).drop completed.length).map missingFileRef)
        result := by
  have arrive : ∀ offset < (repIndices blobRefs).length,
      ∃ bytes, env.fetchBlob (0 + offset) = .ok bytes := by
    intro offset before
    rw [Nat.zero_add]
    exact stopsAt.arrive offset before
  rcases hydrateFrom_append [] arrive stopsAt.inMemory with
    ⟨hydrated, isHydrated, goesOn⟩
  have isWhole : hydrateFrom env 0 snapshot.representations
      (repIndices blobRefs) = .hydrated hydrated := by
    rw [List.append_nil] at goesOn
    rw [goesOn, hydrateFrom]
  have inRange := stopsAt.inRange
  have someFile : (fileRefs blobRefs).isEmpty = false := by
    rw [List.isEmpty_eq_false_iff]
    intro isEmpty
    rw [isEmpty] at inRange
    cases inRange
  have nonempty : blobRefs.isEmpty = false := by
    rw [List.isEmpty_eq_false_iff]
    intro isEmpty
    rw [isEmpty] at inRange
    cases inRange
  have isStopped : fetchFilesFrom env 0 [] [] (fileRefs blobRefs) =
      .stopped completed ((fileRefs blobRefs).drop completed.length) := by
    have targets : ∀ earlier path, completed[earlier]? = some path →
        env.targetPath (0 + earlier) = .ok path ∧
          ∃ digest, env.fetchBlobToPath (0 + earlier) = .ok digest := by
      intro earlier path isThere
      rw [Nat.zero_add]
      exact stopsAt.targets earlier path isThere
    apply fetchFilesFrom_stops [] [] inRange targets
    · rw [Nat.zero_add]
      exact stopsAt.target
    · rw [Nat.zero_add]
      exact stopsAt.stops
  refine ⟨hydrated, _, isHydrated, ?_, finalizePartial_accounts
    { snapshot with representations := hydrated } [] completed _⟩
  unfold materialize
  rw [nonempty, isWhole]
  dsimp only
  rw [someFile, isStopped]
  rfl

end Accounts

namespace Sample

/-- `Url::from_file_path` on a path of characters that need no escape but the
ones that `encodeByte` escapes. -/
def fromFilePath (path : AbsolutePath) : String :=
  "file://" ++ String.ofList (path.path.asOsStr.flatMap fun byte =>
    if byte = 0x2F then ['/'] else encodeByte byte)

theorem isPlain_fromFilePath (path : AbsolutePath) :
    fromFilePath path ≠ "" ∧
      ∀ c ∈ (fromFilePath path).toList, isWhitespace c = false := by
  have schemeClean : ∀ c ∈ "file://".toList, isWhitespace c = false := by
    simp [isWhitespace]
  unfold fromFilePath
  constructor
  · intro isEmpty
    have schemeEmpty := (String.append_eq_empty_iff.mp isEmpty).1
    exact absurd schemeEmpty (by decide)
  · intro c member
    rw [String.toList_append] at member
    rcases List.mem_append.mp member with isScheme | inPath
    · exact schemeClean c isScheme
    · rw [String.toList_ofList] at inPath
      rcases List.mem_flatMap.mp inPath with ⟨byte, _, inByte⟩
      split at inByte
      · rw [List.mem_singleton.mp inByte]
        decide
      · exact noWhitespace_encodeByte byte c inByte

def first : AbsolutePath := ⟨PathBuf.fromText "/c/a", by decide⟩
def second : AbsolutePath := ⟨PathBuf.fromText "/c/b", by decide⟩

/-- The first blob of each stage arrives, the second is cancelled. -/
def env : MaterializeEnv where
  fetchBlob := fun position =>
    if position = 0 then .ok [1, 2] else .error .cancelled
  fetchBlobToPath := fun position =>
    if position = 0 then .ok ⟨List.replicate 32 0, List.length_replicate⟩
    else .error .cancelled
  targetPath := fun position => .ok (if position = 0 then first else second)
  fromFilePath := fromFilePath
  isPlain := isPlain_fromFilePath
  fileLength := fun _ => none
  fromDevice := "phone"
  newId := "new"
  materializeDirectory := fun snapshot _ => .ok (.complete snapshot)

def blobFor (representation : Option Nat) : V3BlobRef :=
  ⟨[], "s", some "n", none, 3, representation⟩

/-- A text and an image without its bytes. -/
def snapshot : SystemClipboardSnapshot where
  tsMs := 0
  representations := [.new "t" "text" (some "text/plain") [104, 105],
    .new "i" "image" (some "image/png") []]

end Sample

end OpenClipboard.InboundMaterialize
