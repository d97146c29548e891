import Mathlib
import OpenClipboard.ConfigMigration.Archive

/-!
# Archives as tar streams

The writer leaves the paths and sizes to the `tar` crate; the reader checks
both.
-/

namespace OpenClipboard.ConfigMigration

open Text

def maxArchiveBytes : Nat := 2 * 1024 * 1024 * 1024

inductive ArchiveError where
  | malformed
  | unsafePath
  | tooLarge
  deriving DecidableEq, Repr

/-- An entry that the `tar` crate reads. -/
structure TarEntry where
  path : PathBuf
  size : Nat
  bytes : List UInt8

/-- The `tar` crate: whether a header takes a path, the stream of members, and
the entries of a stream, `none` where it is malformed.  What it builds it reads
back. -/
structure TarCrate where
  setPath : String → Bool
  build : List (String × List UInt8) → List UInt8
  entries : List UInt8 → List (Option TarEntry)
  entries_build : ∀ members, (∀ member ∈ members, setPath member.1 = true) →
    entries (build members) = members.map fun member =>
      some ⟨PathBuf.fromText member.1, member.2.length, member.2⟩
  length_build : ∀ members, (∀ member ∈ members, setPath member.1 = true) →
    (members.map fun member => member.2.length).sum ≤ (build members).length

def safeRelativePath (path : PathBuf) : Except ArchiveError String :=
  if path.start ≠ .bare ∨ path.components.any Component.isParent = true then
    .error .unsafePath
  else
    match path.components.mapM Component.toStr with
    | none => .error .unsafePath
    | some [] => .error .unsafePath
    | some parts => .ok ("/".intercalate parts)

section Tar

variable (tar : TarCrate)

def toTarBytes (archive : BundleArchive) : Except ArchiveError (List UInt8) :=
  if (inKeyOrder archive).all fun member => tar.setPath member.1 then
    .ok (tar.build (inKeyOrder archive))
  else
    .error .unsafePath

/-- Insert the entries, with the sizes added up so far. -/
def readEntries : Nat → List (Option TarEntry) → BundleArchive →
    Except ArchiveError BundleArchive
  | _, [], members => .ok members
  | _, none :: _, _ => .error .malformed
  | total, some entry :: rest, members =>
      match safeRelativePath entry.path with
      | .error error => .error error
      | .ok rel =>
          if maxArchiveBytes < total + entry.size then
            .error .tooLarge
          else
            readEntries (total + entry.size) rest
              (members.put rel entry.bytes)

def fromTarBytes (bytes : List UInt8) : Except ArchiveError BundleArchive :=
  readEntries 0 (tar.entries bytes) ∅

end Tar

/-! ## Round trip -/

def SafeMember (member : String) : Prop :=
  safeRelativePath (PathBuf.fromText member) = .ok member

instance (member : String) : Decidable (SafeMember member) :=
  inferInstanceAs (Decidable (_ = _))

theorem asBytes_ne_dot {text : String} (notCurrent : text ≠ ".") :
    asBytes text ≠ [0x2E] := by
  intro isDot
  have dot : asBytes "." = [0x2E] := by decide
  exact notCurrent (asBytes_injective (isDot.trans dot.symm))

def FileName.component (file : FileName) : Component where
  bytes := asBytes file.text
  nonempty := by
    intro empty
    have none : asBytes "" = [] := by decide
    exact file.nonempty (asBytes_injective (empty.trans none.symm))
  noSeparator := by
    rw [separator_mem_asBytes_iff]
    exact file.noSeparator
  notCurrent := asBytes_ne_dot file.notCurrent

@[simp]
theorem FileName.isParent_component (file : FileName) :
    file.component.isParent = false := by
  apply Bool.eq_false_of_not_eq_true
  intro isParent
  have isDots : asBytes file.text = [0x2E, 0x2E] := eq_of_beq isParent
  have dots : asBytes ".." = [0x2E, 0x2E] := by decide
  exact file.notParent (asBytes_injective (isDots.trans dots.symm))

@[simp]
theorem FileName.toStr_component (file : FileName) :
    file.component.toStr = some file.text :=
  fromUtf8_asBytes file.text

theorem fromText_pair (directory file : FileName) :
    PathBuf.fromText (directory.text ++ "/" ++ file.text) =
      ⟨.bare, [directory.component, file.component]⟩ := by
  have slash : asBytes "/" = [0x2F] := by decide
  have pieces : (asBytes (directory.text ++ "/" ++ file.text)).splitOn 0x2F =
      [asBytes directory.text, asBytes file.text] := by
    have joined : asBytes (directory.text ++ "/" ++ file.text) =
        List.intercalate [0x2F]
          [asBytes directory.text, asBytes file.text] := by
      rw [asBytes_append, asBytes_append, slash]
      simp [List.intercalate]
    rw [joined]
    apply List.splitOn_intercalate
    · intro piece member
      simp only [List.mem_cons, List.not_mem_nil, or_false] at member
      rcases member with isDirectory | isFile
      · rw [isDirectory]
        exact directory.component.noSeparator
      · rw [isFile]
        exact file.component.noSeparator
    · exact List.cons_ne_nil _ _
  have directoryRead : Component.ofBytes (asBytes directory.text) =
      some directory.component :=
    Component.ofBytes_bytes directory.component
  have fileRead : Component.ofBytes (asBytes file.text) =
      some file.component :=
    Component.ofBytes_bytes file.component
  have isBare : PathBuf.startOf [asBytes directory.text, asBytes file.text] =
      .bare := by
    unfold PathBuf.startOf
    split
    · rename_i isEmpty
      exact absurd (List.cons.inj isEmpty).1 directory.component.nonempty
    · rename_i isDot
      exact absurd (List.cons.inj isDot).1 directory.component.notCurrent
    · rfl
  unfold PathBuf.fromText PathBuf.ofOsStr
  rw [pieces, isBare]
  simp [directoryRead, fileRead]

theorem safeMember_pair (directory file : FileName) :
    SafeMember (directory.text ++ "/" ++ file.text) := by
  have joined : "/".intercalate [directory.text, file.text] =
      directory.text ++ "/" ++ file.text := by
    apply String.toList_inj.mp
    simp
  unfold SafeMember safeRelativePath
  rw [fromText_pair]
  simp [joined]

theorem safeMember_under {directory : FileName} {start : String}
    (isStart : start = directory.text ++ "/") (file : FileName) :
    SafeMember (memberUnder start file) := by
  rw [isStart]
  exact safeMember_pair directory file

section RoundTrip

variable {tar : TarCrate} {archive : BundleArchive}

theorem readEntries_of_safe {members : List (String × List UInt8)}
    {total : Nat} {inserted : BundleArchive}
    (safe : ∀ member ∈ members, SafeMember member.1)
    (fits : total + (members.map fun member => member.2.length).sum ≤
      maxArchiveBytes) :
    readEntries total (members.map fun member =>
        some ⟨PathBuf.fromText member.1, member.2.length, member.2⟩)
      inserted = .ok (inserted.putEach Prod.fst Prod.snd members) := by
  induction members generalizing total inserted with
  | nil => rfl
  | cons member rest inductionHypothesis =>
      have isSafe : safeRelativePath (PathBuf.fromText member.1) =
          .ok member.1 :=
        safe member List.mem_cons_self
      have restSafe : ∀ other ∈ rest, SafeMember other.1 :=
        fun other inRest => safe other (List.mem_cons_of_mem member inRest)
      rw [List.map_cons, List.sum_cons] at fits
      have notOver : ¬ maxArchiveBytes < total + member.2.length := by
        omega
      rw [List.map_cons, readEntries, isSafe]
      simp only [notOver, if_false]
      rw [inductionHypothesis restSafe (by omega)]
      rfl

theorem fromTarBytes_toTarBytes {bytes : List UInt8}
    (built : toTarBytes tar archive = .ok bytes)
    (safe : ∀ member ∈ archive.keys, SafeMember member)
    (fits : bytes.length ≤ maxArchiveBytes) :
    ∃ restored, fromTarBytes tar bytes = .ok restored ∧
      ∀ member, restored.find member = archive.find member := by
  unfold toTarBytes at built
  split at built
  case isFalse => cases built
  case isTrue takesAll =>
    cases built
    have takes : ∀ member ∈ inKeyOrder archive,
        tar.setPath member.1 = true :=
      List.all_eq_true.mp takesAll
    have sized := tar.length_build _ takes
    have allSafe : ∀ member ∈ inKeyOrder archive, SafeMember member.1 := by
      intro member isMember
      have found := mem_inKeyOrder.mp isMember
      apply safe
      apply AList.lookup_isSome.mp
      exact Option.isSome_of_eq_some found
    refine ⟨Table.putEach Prod.fst Prod.snd ∅ (inKeyOrder archive), ?_, ?_⟩
    · unfold fromTarBytes
      rw [tar.entries_build _ takes]
      exact readEntries_of_safe allSafe (by omega)
    · intro member
      exact find_putEach_inKeyOrder member

end RoundTrip

end OpenClipboard.ConfigMigration
