import Mathlib.Logic.Function.Basic
import OpenClipboard.Inbound.Materialize
import OpenClipboard.Inbound.TargetPaths

/-!
# Materializing a directory set

The members of a manifest are fetched into a staging directory.  When all of
them have arrived every root gets a destination, which may be a placeholder
that the save directory of the user reserved, and the staged roots are moved
there one after another; a root on another device is copied beside its
destination first.  Any step may fail, and the error exits of the phases undo
different things.
-/

namespace OpenClipboard.DirectorySet

open Text InboundTargets InboundMaterialize

/-! ## Disk and steps -/

/-- A name in a directory. -/
structure EntryPath where
  parent : LexicalPath
  name : String
  deriving DecidableEq

def EntryPath.ofPath (path : LexicalPath) : EntryPath where
  parent := { path with components := path.components.dropLast }
  name := path.components.getLast?.getD ""

/-- A member in the staging directory; an empty directory has no bytes. -/
structure StagedFile where
  rootIndex : Nat
  relativePath : String
  kind : FileSetMemberKind
  bytes : List UInt8

/-- A file, or a directory with everything below it. -/
inductive Entry where
  | file (bytes : List UInt8)
  | directory (members : List StagedFile)

abbrev Entries := EntryPath → Option Entry

/-- The staging directory of the call, where there is one, and the entries of
the other directories. -/
structure Disk where
  staging : Option (List StagedFile)
  entries : Entries

/-- The steps that can fail.  Members and roots are numbered by their place in
the loop over them. -/
inductive Step where
  | stagingExists
  | clearStaging
  | createStaging
  | createRoot (position : Nat)
  | createMember (position : Nat)
  | fetch (position : Nat)
  | permission (position : Nat)
  | createManaged
  | collisionCheck (position : Nat)
  | clearPlaceholder (position : Nat)
  | destinationCheck (position : Nat)
  | hiddenCheck (position : Nat)
  | clearHidden (position : Nat)
  | copy (position : Nat)
  | secondRename (position : Nat)
  | removeSource (position : Nat)
  deriving DecidableEq, Repr

/-- One call: what is received, what the ports answer, and what fails. -/
structure DirectoryCall where
  materializer : FileCacheBlobMaterializer
  delivery : Delivery
  manifest : InboundFileSetManifest
  isSent : delivery.manifest = some manifest
  blake3 : Blake3
  snapshot : SystemClipboardSnapshot
  /-- The decoder holds every representation in memory. -/
  inMemory : ∀ rep ∈ snapshot.representations, rep.inlineBytes.isSome = true
  fetched : Nat → List UInt8 × Digest
  /-- The path that the save directory offers for a root. -/
  answer : Nat → Option EntryPath
  /-- Whether the first rename of a root fails. -/
  crossDevice : Nat → Bool
  /-- What a copy that fails leaves behind. -/
  residue : Option Entry
  failing : Option Step
  /-- The text of the error of a step. -/
  stepError : Step → String
  fileUrl : EntryPath → String
  newId : String

namespace DirectoryCall

variable (call : DirectoryCall)

def fails (step : Step) : Bool :=
  decide (call.failing = some step)

/-! ## Staging -/

/-- The directories of the roots, from the one at `position` on. -/
def createRoots : Nat → List DirectoryRoot → Except String Unit
  | _, [] => .ok ()
  | position, root :: rest =>
      if !root.isFile && call.fails (.createRoot position) then
        .error (call.stepError (.createRoot position))
      else
        createRoots (position + 1) rest

/-- The error of the loop that reports what is not fetched any more, or the
error of the fetch. -/
def unfetchedError (detail : String) : List InboundFileSetMember → String
  | [] => detail
  | member :: rest =>
      match member.kind, member.blobRefIndex with
      | .emptyDirectory, _ => unfetchedError detail rest
      | _, none => "file member is missing its blob reference"
      | _, some index =>
          if index < call.delivery.blobRefs.length then
            unfetchedError detail rest
          else
            s!"directory blob reference index {index} is out of bounds"

/-- The members from the one at `position` on, with what is staged and the
digests so far. -/
def stageFrom : Nat → List StagedFile → List (Nat × Digest) →
    List InboundFileSetMember →
    Except String (List (Nat × Digest)) × List StagedFile
  | _, staged, digests, [] => (.ok digests, staged)
  | position, staged, digests, member :: rest =>
      match call.materializer.stageMember call.delivery member with
      | .error err => (.error err, staged)
      | .ok _ =>
          if call.fails (.createMember position) then
            (.error (call.stepError (.createMember position)), staged)
          else
            match member.kind, member.blobRefIndex with
            | .emptyDirectory, _ =>
                stageFrom (position + 1) (staged ++
                  [⟨member.rootIndex, member.relativePath, member.kind, []⟩])
                  digests rest
            | _, none =>
                (.error "file member is missing its blob reference", staged)
            | kind, some index =>
                if call.fails (.fetch position) then
                  (.error (call.unfetchedError
                    (call.stepError (.fetch position)) rest), staged)
                else
                  let after := staged ++ [⟨member.rootIndex,
                    member.relativePath, kind, (call.fetched position).1⟩]
                  if kind = .executable ∧
                      call.fails (.permission position) = true then
                    (.error (call.stepError (.permission position)), after)
                  else
                    stageFrom (position + 1) after
                      (digests ++ [(index, (call.fetched position).2)]) rest

/-- The roots and the digests of a set that is staged as a whole. -/
def buildStaging :
    Except String (List DirectoryRoot × List (Nat × Digest)) ×
      List StagedFile :=
  match collectRoots call.manifest.members with
  | .error err => (.error err, [])
  | .ok roots =>
      match call.createRoots 0 roots with
      | .error err => (.error err, [])
      | .ok () =>
          match call.stageFrom 0 [] [] call.manifest.members with
          | (.error err, staged) => (.error err, staged)
          | (.ok digests, staged) => (.ok (roots, digests), staged)

/-! ## Destinations -/

/-- A root, its destination, and whether a placeholder stands there. -/
structure Destination where
  root : DirectoryRoot
  path : EntryPath
  isReserved : Bool

def managedParent : LexicalPath :=
  call.materializer.join call.materializer.blobDir
    (sanitizePathSegment call.delivery.receiverEntryId)

/-- `reserve_target`: the path is won by creating the placeholder anew. -/
def reserveTarget (entries : Entries) (position : Nat) : Option EntryPath :=
  (call.answer position).filter fun path => (entries path).isNone

/-- `resolve_nonconflicting_root_path`. -/
def resolveRootPath (entries : Entries) (reserved : List EntryPath)
    (desiredName : Segment) : Option EntryPath :=
  let inParent (name : Segment) : EntryPath :=
    .ofPath (call.materializer.join call.managedParent name)
  let taken (path : EntryPath) :=
    decide (path ∈ reserved) || (entries path).isSome
  if taken (inParent desiredName) then
    FreshName.search
      (fun suffix => inParent
        (FileCacheBlobMaterializer.suffixedName desiredName suffix))
      taken (2 ^ 32 - 2) 2
  else
    some (inParent desiredName)

def pathsOf (destinations : List Destination) : List EntryPath :=
  destinations.map Destination.path

/-- The destinations of the roots left, after those chosen. -/
def chooseFrom : List Destination → Entries → List DirectoryRoot →
    Except String Unit × List Destination × Entries
  | chosen, entries, [] => (.ok (), chosen, entries)
  | chosen, entries, root :: rest =>
      match call.reserveTarget entries chosen.length with
      | some path =>
          let placed := Function.update entries path (some (.file []))
          let next := chosen ++ [⟨root, path, true⟩]
          if path ∈ pathsOf chosen then
            (.error "directory target reserver returned a duplicate path",
              next, placed)
          else
            chooseFrom next placed rest
      | none =>
          if call.fails (.collisionCheck chosen.length) then
            (.error (call.stepError (.collisionCheck chosen.length)), chosen,
              entries)
          else
            match call.resolveRootPath entries (pathsOf chosen)
                root.name.toSegment with
            | none =>
                (.error "directory collision suffix space exhausted", chosen,
                  entries)
            | some path =>
                chooseFrom (chosen ++ [⟨root, path, false⟩]) entries rest

def checkDestination (position : Nat) (destination : Destination)
    (entries : Entries) : Except String Unit × Entries :=
  if call.fails (.destinationCheck position) then
    (.error (call.stepError (.destinationCheck position)), entries)
  else if (entries destination.path).isSome then
    (.error "directory destination already exists", entries)
  else
    (.ok (), entries)

/-- Remove the placeholder of a destination, and check. -/
def clearOne (position : Nat) (destination : Destination)
    (entries : Entries) : Except String Unit × Entries :=
  match entries destination.path with
  | some (.file _) =>
      if call.fails (.clearPlaceholder position) then
        (.error (call.stepError (.clearPlaceholder position)), entries)
      else
        call.checkDestination position destination
          (Function.update entries destination.path none)
  | _ => call.checkDestination position destination entries

def clearFrom : Nat → Entries → List Destination →
    Except String Unit × Entries
  | _, entries, [] => (.ok (), entries)
  | position, entries, destination :: rest =>
      match call.clearOne position destination entries with
      | (.error err, after) => (.error err, after)
      | (.ok (), after) => clearFrom (position + 1) after rest

/-! ## Promotion -/

/-- Where a root is copied to that cannot be renamed. -/
def hidden (path : EntryPath) : EntryPath :=
  ⟨path.parent, ".uniclip-staging-" ++ path.name⟩

def stagedRoot (staged : List StagedFile) (root : DirectoryRoot) : Entry :=
  let members := staged.filter fun file => file.rootIndex = root.index
  if root.isFile then .file (members.flatMap StagedFile.bytes)
  else .directory members

def withoutRoot (staged : List StagedFile) (root : DirectoryRoot) :
    List StagedFile :=
  staged.filter fun file => file.rootIndex ≠ root.index

def promoteRoot (position : Nat) (destination : Destination)
    (staged : List StagedFile) (entries : Entries) :
    Except String Unit × List StagedFile × Entries :=
  let content := some (stagedRoot staged destination.root)
  let moved := withoutRoot staged destination.root
  if call.crossDevice position then
    let hiddenPath := hidden destination.path
    if call.fails (.hiddenCheck position) then
      (.error (call.stepError (.hiddenCheck position)), staged, entries)
    else if (entries hiddenPath).isSome &&
        call.fails (.clearHidden position) then
      (.error (call.stepError (.clearHidden position)), staged, entries)
    else
      let cleared := Function.update entries hiddenPath none
      if call.fails (.copy position) then
        (.error (call.stepError (.copy position)), staged,
          Function.update cleared hiddenPath call.residue)
      else
        let copied := Function.update cleared hiddenPath content
        let renamed := Function.update copied hiddenPath none
        if call.fails (.secondRename position) then
          -- The hidden copy is removed again.
          (.error (call.stepError (.secondRename position)), staged, renamed)
        else
          let promoted := Function.update renamed destination.path content
          if call.fails (.removeSource position) then
            (.error (call.stepError (.removeSource position)), staged, promoted)
          else
            (.ok (), moved, promoted)
  else
    (.ok (), moved, Function.update entries destination.path content)

/-- Remove what was promoted, the last root first. -/
def rollBack (promoted : List Destination) (entries : Entries) : Entries :=
  (pathsOf promoted).reverse.foldl
    (fun left path => Function.update left path none) entries

/-- The roots left, after those promoted. -/
def promoteFrom : List Destination → List StagedFile → Entries →
    List Destination → Except String Unit × Entries
  | _, _, entries, [] => (.ok (), entries)
  | promoted, staged, entries, destination :: rest =>
      match call.promoteRoot promoted.length destination staged entries with
      | (.error err, _, after) => (.error err, rollBack promoted after)
      | (.ok (), left, after) =>
          promoteFrom (promoted ++ [destination]) left after rest

/-- `build_and_promote_directory`: the destinations and the digests, and the
entries after it. -/
def buildAndPromote (entries : Entries) :
    Except String (List Destination × List (Nat × Digest)) × Entries :=
  match call.buildStaging with
  | (.error err, _) => (.error err, entries)
  | (.ok (roots, digests), staged) =>
      if call.fails .createManaged then
        (.error (call.stepError .createManaged), entries)
      else
        match call.chooseFrom [] entries roots with
        | (.error err, _, after) => (.error err, after)
        | (.ok (), chosen, reserved) =>
            match call.clearFrom 0 reserved chosen with
            | (.error err, after) => (.error err, after)
            | (.ok (), cleared) =>
                match call.promoteFrom [] staged cleared chosen with
                | (.error err, after) => (.error err, after)
                | (.ok (), after) => (.ok (chosen, digests), after)

/-! ## The call -/

/-- The digest inserted last for a blob. -/
def digestOf (digests : List (Nat × Digest)) (index : Nat) : Option Digest :=
  (digests.reverse.find? fun inserted => inserted.1 = index).map Prod.snd

/-- The snapshot with the local paths and the identity of the set. -/
def finish (chosen : List Destination) (digests : List (Nat × Digest)) :
    Except String MaterializeResult :=
  match computeFileSetComponent call.blake3 call.manifest
      (digestOf digests) with
  | .error err => .error err
  | .ok component =>
      let uriList := String.join ((pathsOf chosen).map fun path =>
        call.fileUrl path ++ "\n")
      match call.snapshot.representations.mapM (rewriteOrFail uriList) with
      | .error err => .error err
      | .ok reps =>
          let listed :=
            if reps.any isFileListRepresentation then reps
            else reps ++ [.new call.newId "files" (some "text/uri-list")
              (asBytes uriList)]
          .ok (.complete { call.snapshot with
            representations := listed
            fileContentDigests := []
            fileSetV1Component := some component })

def materializeDirectory (before : Disk) :
    Except String MaterializeResult × Disk :=
  if call.manifest.members.isEmpty then
    (.error "directory manifest has no members", before)
  else if call.fails .stagingExists then
    (.error (call.stepError .stagingExists), before)
  else if before.staging.isSome && call.fails .clearStaging then
    (.error (call.stepError .clearStaging), before)
  else if call.fails .createStaging then
    (.error (call.stepError .createStaging), { before with staging := none })
  else
    match call.buildAndPromote before.entries with
    | (.error err, after) => (.error err, ⟨none, after⟩)
    | (.ok (chosen, digests), after) =>
        (call.finish chosen digests, ⟨none, after⟩)

end DirectoryCall

end OpenClipboard.DirectorySet
